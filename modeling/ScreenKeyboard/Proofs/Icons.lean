import ScreenKeyboard.Proofs.ShiftedPage
/-!
# The icons of a page of letters

Letters are drawn as text, so the icons of a page of letters are the function keys that stand around them, whatever the
grid holds and whatever its keys offer.  They are the same in every keyboard but for the shift keys (`ownIcons`), and a
shifted page draws the shift keys as active and nothing else differently.  So counting icons is counting function keys
(`icon_census`).
-/
namespace ScreenKeyboard

/-! ## Icons -/

namespace Key

def isIcon (key : Key) : Bool := key.label?.isNone

theorem isIcon_of_label {key : Key} {text : String} (h : key.visual = .label text) : key.isIcon = false := by
  simp [isIcon, label?, h, Visual.label?]

@[simp] theorem isIcon_drawnActive (key : Key) : key.drawnActive.isIcon = key.isIcon := by
  unfold drawnActive
  split
  · rename_i h
    subst h
    rfl
  · rfl

theorem filter_isIcon_of_labels {row : Row} (letters : ∀ key ∈ row, ∃ text, key.visual = .label text) :
    row.filter isIcon = [] := by
  rw [List.filter_eq_nil_iff]
  intro key hk
  obtain ⟨text, ht⟩ := letters key hk
  simp [isIcon_of_label ht]

end Key

/-- One value for phones and another one for tablets. -/
def FormFactor.select {α : Type} (phone tablet : α) : FormFactor → α
  | .phone => phone
  | .tablet => tablet

/-- The icons that a page of letters has in each of its rows. -/
def ownIcons (hasShift : Bool) (shift : Key) : FormFactor → List Row
  | .phone => [[], [], (if hasShift then [shift] else []) ++ [.delete], [.spaceBar, .enterOfferingEmoji]]
  | .tablet => [[.delete], [.enter], if hasShift then [shift, shift] else [], [.settings, .spaceBar, .emoji]]

namespace Page

def icons (page : Page) : List Row := page.rows.map (List.filter Key.isIcon)

/-- The key stands on the page so many times, and each time in one row. -/
def OnlyIn (page : Page) (n : RowNumber) (times : Nat) (key : Key) : Prop :=
  page.countOf key = times ∧ (page.rowOr n).count key = times

instance (page : Page) (n : RowNumber) (times : Nat) (key : Key) : Decidable (page.OnlyIn n times key) :=
  inferInstanceAs (Decidable (_ ∧ _))

theorem rowOr_icons (page : Page) (n : RowNumber) :
    (⟨page.icons⟩ : Page).rowOr n = (page.rowOr n).filter Key.isIcon := by
  unfold rowOr icons
  rw [List.getD_eq_getElem?_getD, List.getD_eq_getElem?_getD, List.getElem?_map]
  cases page.rows[n.index]? <;> rfl

/-- An icon is counted among the icons. -/
theorem onlyIn_iff_icons (page : Page) {key : Key} (icon : key.isIcon = true) (n : RowNumber) (times : Nat) :
    page.OnlyIn n times key ↔ (⟨page.icons⟩ : Page).OnlyIn n times key := by
  have all : page.countOf key = (⟨page.icons⟩ : Page).countOf key := by
    unfold countOf keys icons
    rw [← List.filter_flatten, List.count_filter icon]
  have row : (page.rowOr n).count key = ((⟨page.icons⟩ : Page).rowOr n).count key := by
    rw [rowOr_icons, List.count_filter icon]
  rw [OnlyIn, OnlyIn, all, row]

end Page

namespace Keyboard

theorem isIcon_leftShift (c : Customizer) : c.leftShift.filter Key.isIcon = if c.hasShift then [.shift] else [] := by
  unfold Customizer.leftShift
  cases c.hasShift <;> rfl

theorem isIcon_rightShift (c : Customizer) :
    (c.rightShift .tablet).filter Key.isIcon = if c.hasShift then [.shift] else [] := by
  unfold Customizer.rightShift
  cases c.hasShift <;> rfl

/-- Letters between the function keys are no icons. -/
theorem icons_composedRows (c : Customizer) {g₁ g₂ g₃ : Row} (form : FormFactor)
    (h₁ : ∀ key ∈ g₁, ∃ text, key.visual = .label text) (h₂ : ∀ key ∈ g₂, ∃ text, key.visual = .label text)
    (h₃ : ∀ key ∈ g₃, ∃ text, key.visual = .label text) :
    (⟨composedRows c g₁ g₂ g₃ form⟩ : Page).icons = ownIcons c.hasShift .shift form := by
  unfold Page.icons
  cases form with
  | phone =>
    simp only [composedRows, List.map_cons, List.map_nil, List.filter_append, Key.filter_isIcon_of_labels h₁,
      Key.filter_isIcon_of_labels h₂, Key.filter_isIcon_of_labels h₃, isIcon_leftShift]
    cases c.hasShift <;> rfl
  | tablet =>
    simp only [composedRows, List.map_cons, List.map_nil, List.filter_append, Key.filter_isIcon_of_labels h₁,
      Key.filter_isIcon_of_labels h₂, Key.filter_isIcon_of_labels h₃, isIcon_leftShift, isIcon_rightShift]
    cases c.hasShift <;> rfl

variable {name : String} {c : Customizer} {grid : Grid} {first second : SymbolMaker} {k : Keyboard}

theorem label_of_mem_upper_letters (made : make name c grid first second = .ok k) (form : FormFactor) (n : RowNumber) :
    ∀ key ∈ ((k.letters form).upper c.locale).rowOr n, ∃ text, key.visual = .label text := by
  intro key hk
  rw [Page.upper, Page.rowOr_mapKeys] at hk
  obtain ⟨⟨visual, output, more⟩, hp, rfl⟩ := List.mem_map.1 hk
  obtain ⟨text, ht⟩ := label_of_mem_letters made form n _ hp
  dsimp only at ht
  subst ht
  rw [Key.upper_mk]
  exact ⟨_, rfl⟩

theorem icons_mapKeys_drawnActive (page : Page) :
    (page.mapKeys Key.drawnActive).icons = page.icons.map (List.map Key.drawnActive) := by
  unfold Page.icons Page.mapKeys
  rw [List.map_map, List.map_map]
  refine List.map_congr_left fun row _ => ?_
  have same : Key.isIcon ∘ Key.drawnActive = Key.isIcon := funext Key.isIcon_drawnActive
  show (row.map Key.drawnActive).filter Key.isIcon = (row.filter Key.isIcon).map Key.drawnActive
  rw [List.filter_map, same]

theorem map_drawnActive_ownIcons (hasShift : Bool) (form : FormFactor) :
    (ownIcons hasShift .shift form).map (List.map Key.drawnActive) = ownIcons hasShift .shiftActive form := by
  cases form <;> cases hasShift <;> rfl

/-- **The icons of the page of letters are those of the function keys.** -/
theorem icons_of_letters_page (made : make name c grid first second = .ok k) {form : FormFactor} {page : Page}
    (there : k.page? form .letters = some page) : page.icons = ownIcons c.hasShift .shift form := by
  obtain rfl : complete k.customizer form (k.letters form) = page := Option.some.inj there
  unfold Page.icons
  rw [rows_complete_letters made]
  exact icons_composedRows c form (label_of_mem_letters made form 1) (label_of_mem_letters made form 2)
    (label_of_mem_letters made form 3)

/-- **A shifted page draws the shift keys as active**, and has the other icons of the page of letters. -/
theorem icons_of_shifted_page (made : make name c grid first second = .ok k) {form : FormFactor} {state : ShiftState}
    {page : Page} (there : k.page? form (.shifted state) = some page) :
    page.icons = ownIcons c.hasShift .shiftActive form := by
  obtain ⟨-, rfl⟩ := (page?_shifted_eq_some_iff k form state page).1 there
  have icons := icons_composedRows c form (label_of_mem_upper_letters made form 1)
    (label_of_mem_upper_letters made form 2) (label_of_mem_upper_letters made form 3)
  rw [icons_mapKeys_drawnActive, customizer_of_make made, ← map_drawnActive_ownIcons, ← icons, Page.icons, Page.icons,
    rows_complete _ _ _ (rowCount_upper_letters_le made form)]

/-! ## The census -/

/-- **How often each icon stands on a page of letters, and in which row.**  There is no other one: neither the enter key
of the other form factor, nor the shift key as other pages draw it, nor one that the grid brought along. -/
structure IconCensus (hasShift : Bool) (shiftKey : Key) (form : FormFactor) (page : Page) : Prop where
  spaceBar : page.OnlyIn 4 1 .spaceBar
  delete : page.OnlyIn (form.select 3 1) 1 .delete
  enter : page.OnlyIn (form.select 4 2) 1 (form.select .enterOfferingEmoji .enter)
  settings : page.OnlyIn 4 (form.select 0 1) .settings
  emoji : page.OnlyIn 4 (form.select 0 1) .emoji
  shift : page.OnlyIn 3 (if hasShift then form.select 1 2 else 0) shiftKey
  noOther : ∀ key ∈ page.keys, key.isIcon = true →
    key ∈ [.spaceBar, .delete, form.select .enterOfferingEmoji .enter, .settings, .emoji, shiftKey]

/-- A page with the icons of the function keys alone passes the census: each icon is counted among these. -/
theorem census_of_icons {hasShift : Bool} {shiftKey : Key} {form : FormFactor} {page : Page}
    (drawn : shiftKey = .shift ∨ shiftKey = .shiftActive) (own : page.icons = ownIcons hasShift shiftKey form) :
    IconCensus hasShift shiftKey form page := by
  have shiftIcon : shiftKey.isIcon = true := by rcases drawn with rfl | rfl <;> rfl
  have enterIcon : (form.select Key.enterOfferingEmoji Key.enter).isIcon = true := by cases form <;> rfl
  have counted := fun {key : Key} (icon : key.isIcon = true) => page.onlyIn_iff_icons icon
  rw [own] at counted
  have listed : ∀ key ∈ (ownIcons hasShift shiftKey form).flatten,
      key ∈ [.spaceBar, .delete, form.select .enterOfferingEmoji .enter, .settings, .emoji, shiftKey] := by
    rcases drawn with rfl | rfl <;> cases form <;> cases hasShift <;> decide
  refine ⟨(counted rfl _ _).2 ?_, (counted rfl _ _).2 ?_, (counted enterIcon _ _).2 ?_, (counted rfl _ _).2 ?_,
    (counted rfl _ _).2 ?_, (counted shiftIcon _ _).2 ?_, fun key hk icon => listed key ?_⟩
  case refine_7 =>
    rw [← own, Page.icons, ← List.filter_flatten]
    exact List.mem_filter.2 ⟨hk, icon⟩
  -- What is left is about the function keys alone, and there are only a few sets of these.
  all_goals
    rcases drawn with rfl | rfl <;> cases form <;> cases hasShift <;> decide

/-- **Census of the icons of a keyboard**: on every page of letters, shifted or not, each function key with an icon
stands as often as its form factor has it, in its own row, and no other icon stands there, whatever keys the grid has. -/
theorem icon_census (made : make name c grid first second = .ok k) (form : FormFactor) :
    (∀ page, k.page? form .letters = some page → IconCensus c.hasShift .shift form page) ∧
    ∀ state page, k.page? form (.shifted state) = some page → IconCensus c.hasShift .shiftActive form page :=
  ⟨fun _ there => census_of_icons (.inl rfl) (icons_of_letters_page made there),
    fun _ _ there => census_of_icons (.inr rfl) (icons_of_shifted_page made there)⟩

/-- Icons that a letter merely offers are not counted, nor is a letter that is called like an icon. -/
theorem icon_census_of_offered_icons :
    ∃ (c : Customizer) (grid : Grid) (k : Keyboard) (letters shifted : Page),
      make "offers" c grid FirstSymbols.make SecondSymbols.make = .ok k ∧ c.hasShift = true ∧
      grid.phone.rows = [[(Key.label "space_key").offering [.spaceBar, .shift, .shiftActive, .delete]]] ∧
      k.page? .tablet .letters = some letters ∧ letters.countOf .shift = 2 ∧ letters.countOf .spaceBar = 1 ∧
      k.page? .phone (.shifted .manual) = some shifted ∧ shifted.countOf .shiftActive = 1 ∧
      (shifted.rowOr 3).count .delete = 1 := by
  let c : Customizer := Customizer.standard ⟨"en", none, by decide +kernel, by decide +kernel⟩
  let grid : Grid :=
    ⟨⟨[[(Key.label "space_key").offering [.spaceBar, .shift, .shiftActive, .delete]]]⟩, none, false⟩
  have usable : ∀ form, (grid.page form).Usable := fun form => by cases form <;> decide +kernel
  obtain ⟨k, made⟩ := exists_make "offers" c usable
  have cased : k.grid.caseless = false := by rw [grid_of_make made]
  have there := (page?_shifted_eq_some_iff k .phone .manual _).2 ⟨cased, rfl⟩
  have onTablet := (icon_census made .tablet).1 _ rfl
  have onPhone := (icon_census made .phone).2 .manual _ there
  exact ⟨c, grid, k, _, _, made, rfl, rfl, rfl, onTablet.shift.1, onTablet.spaceBar.1, there, onPhone.shift.1,
    onPhone.delete.2⟩

end Keyboard

end ScreenKeyboard
