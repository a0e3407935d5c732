import ScreenKeyboard.Proofs.DottedCapital
import ScreenKeyboard.Proofs.KeyEdits
import ScreenKeyboard.Proofs.LettersPage
import ScreenKeyboard.Proofs.UpperText
/-!
# Shifted pages

A shifted page is the page of letters with every key changed where it stands (`Key.shiftedIn`): the shift keys are
drawn as active, the rest of the rows with letters is in upper case, and the space bar row is left alone.  It does not
come about that way, for only the letters are put into upper case and the function keys are added afterwards.  The two
agree because upper case leaves the function keys of these rows as they are, and because a letter, being a label, is no
shift key in either case.
-/
namespace ScreenKeyboard

/-! ## Keys that upper case leaves alone -/

theorem map_eq_self {α : Type} {f : α → α} {xs : List α} (same : ∀ x ∈ xs, f x = x) : xs.map f = xs := by
  rw [List.map_congr_left same, List.map_id']

namespace Key

theorem upper_offering (l : Locale) (key : Key) (more : List Key) :
    (key.offering more).upper l = (key.upper l).offering (more.map (upper l)) := by
  cases key
  unfold offering
  rw [upper_mk, upper_mk]

/-- The function keys and the marks have no upper case. -/
theorem upper_of_mem_fixed (l : Locale) : ∀ key ∈ [shiftActive, label "."] ++ Keyboard.aroundLetters ++
    phonePunctuation ++ tabletPunctuation, key.upper l = key := by
  let turkish : Locale := ⟨"tr", none, by decide +kernel, by decide +kernel⟩
  let english : Locale := ⟨"en", none, by decide +kernel, by decide +kernel⟩
  have both : ∀ key ∈ [shiftActive, label "."] ++ Keyboard.aroundLetters ++ phonePunctuation ++ tabletPunctuation,
      key.upper turkish = key ∧ key.upper english = key := by decide +kernel
  intro key there
  exact upper_of_both (by decide : turkish.Turkic) (by decide : ¬ english.Turkic) (both key there).1 (both key there).2 l

end Key

/-! ## From the letters in upper case to the whole page -/

namespace Key

/-- The key as a shifted page draws it, were it not for upper case. -/
def drawnActive (key : Key) : Key := if key = .shift then .shiftActive else key

/-- What stands on a shifted page in the place of a key: the shift keys are drawn as active, and the others are in
upper case unless they stand in the space bar row. -/
def shiftedIn (l : Locale) (n : RowNumber) (key : Key) : Key :=
  if key = .shift then .shiftActive else if n = spaceBarRow then key else key.upper l

/-- What a letter becomes, part by part. -/
theorem shiftedIn_of_ne {l : Locale} {n : RowNumber} (above : n ≠ spaceBarRow) (key : Key) : key.shiftedIn l n =
    if key = .shift then .shiftActive else ⟨key.visual.upper l, key.output.upper l, key.more.map (upper l)⟩ := by
  unfold shiftedIn
  rw [if_neg above]
  obtain ⟨visual, output, more⟩ := key
  rw [upper_mk]

theorem map_drawnActive {l : Locale} {n : RowNumber} {row : Row}
    (h : ∀ key ∈ row, n = spaceBarRow ∨ key = .shift ∨ key.upper l = key) :
    row.map drawnActive = row.map (shiftedIn l n) := by
  refine List.map_congr_left fun key hk => ?_
  unfold drawnActive shiftedIn
  by_cases hs : key = .shift
  · rw [if_pos hs, if_pos hs]
  · rw [if_neg hs, if_neg hs]
    split
    · rfl
    · rename_i hn
      exact (((h key hk).resolve_left hn).resolve_left hs).symm

/-- Letters are no shift keys, neither before they are put into upper case nor after. -/
theorem map_drawnActive_upper {l : Locale} {n : RowNumber} {row : Row} (hn : n.val < spaceBarRow.val)
    (letters : ∀ key ∈ row, ∃ text, key.visual = .label text) :
    (row.map (upper l)).map drawnActive = row.map (shiftedIn l n) := by
  rw [List.map_map]
  refine List.map_congr_left fun key hk => ?_
  obtain ⟨text, ht⟩ := letters key hk
  obtain ⟨visual, output, more⟩ := key
  have lower : (⟨visual, output, more⟩ : Key) ≠ .shift := fun e => by
    have := congrArg Key.visual e
    rw [ht] at this
    cases this
  have capital : upper l ⟨visual, output, more⟩ ≠ .shift := fun e => by
    dsimp only at ht
    subst ht
    rw [upper_mk] at e
    have := congrArg Key.visual e
    cases this
  show drawnActive (upper l _) = shiftedIn l n _
  unfold drawnActive shiftedIn
  rw [if_neg capital, if_neg lower, if_neg fun e => Nat.ne_of_lt hn (congrArg RowNumber.val e)]

theorem map_drawnActive_singleton {l : Locale} {key : Key} (h : key.upper l = key) (n : RowNumber) :
    [key].map drawnActive = [key].map (shiftedIn l n) :=
  map_drawnActive fun k hk => .inr (.inr (by rw [List.mem_singleton.1 hk]; exact h))

end Key

namespace Customizer

theorem map_drawnActive_leftShift (c : Customizer) (l : Locale) (n : RowNumber) :
    c.leftShift.map Key.drawnActive = c.leftShift.map (Key.shiftedIn l n) :=
  Key.map_drawnActive fun key hk => by
    unfold leftShift at hk
    split at hk
    · exact .inr (.inl (List.mem_singleton.1 hk))
    · cases hk

theorem map_drawnActive_rightShift (c : Customizer) (l : Locale) (n : RowNumber) :
    (c.rightShift .tablet).map Key.drawnActive = (c.rightShift .tablet).map (Key.shiftedIn l n) :=
  Key.map_drawnActive fun key hk => by
    unfold rightShift at hk
    rcases List.mem_append.1 hk with hk | hk
    · exact .inr (.inr (Key.upper_of_mem_fixed l key (by simp [Keyboard.aroundLetters, hk])))
    · split at hk
      · exact .inr (.inl (List.mem_singleton.1 hk))
      · cases hk

end Customizer

namespace Page

theorem rowOr_eq_nil_or_mem (page : Page) (n : RowNumber) : page.rowOr n = [] ∨ page.rowOr n ∈ page.rows := by
  unfold rowOr
  rw [List.getD_eq_getElem?_getD]
  cases h : page.rows[n.index]? with
  | none => exact .inl rfl
  | some row => exact .inr (List.mem_of_getElem? h)

end Page

namespace Keyboard

/-- Each row that letters in upper case make is the row that the letters make, every key changed where it stands. -/
theorem rowOr_composedRows_upper (c : Customizer) (l : Locale) {g₁ g₂ g₃ : Row} (form : FormFactor) (n : RowNumber)
    (h₁ : ∀ key ∈ g₁, ∃ text, key.visual = .label text) (h₂ : ∀ key ∈ g₂, ∃ text, key.visual = .label text)
    (h₃ : ∀ key ∈ g₃, ∃ text, key.visual = .label text) :
    ((⟨composedRows c (g₁.map (Key.upper l)) (g₂.map (Key.upper l)) (g₃.map (Key.upper l)) form⟩ : Page).rowOr n).map
        Key.drawnActive =
      ((⟨composedRows c g₁ g₂ g₃ form⟩ : Page).rowOr n).map (Key.shiftedIn l n) := by
  have delete : Key.delete.upper l = .delete := Key.upper_of_mem_fixed l _ (by decide)
  have enter : Key.enter.upper l = .enter := Key.upper_of_mem_fixed l _ (by decide)
  match form, n with
  | .phone, ⟨1, _⟩ => exact Key.map_drawnActive_upper (n := 1) (by decide) h₁
  | .phone, ⟨2, _⟩ => exact Key.map_drawnActive_upper (n := 2) (by decide) h₂
  | .phone, ⟨3, _⟩ =>
    show (c.leftShift ++ g₃.map (Key.upper l) ++ [Key.delete]).map _ = (c.leftShift ++ g₃ ++ [Key.delete]).map _
    rw [List.map_append, List.map_append, List.map_append, List.map_append, c.map_drawnActive_leftShift l 3,
      Key.map_drawnActive_upper (n := 3) (by decide) h₃, Key.map_drawnActive_singleton delete 3]
    rfl
  | .tablet, ⟨1, _⟩ =>
    show (g₁.map (Key.upper l) ++ [Key.delete]).map _ = (g₁ ++ [Key.delete]).map _
    rw [List.map_append, List.map_append, Key.map_drawnActive_upper (n := 1) (by decide) h₁,
      Key.map_drawnActive_singleton delete 1]
    rfl
  | .tablet, ⟨2, _⟩ =>
    show (g₂.map (Key.upper l) ++ [Key.enter]).map _ = (g₂ ++ [Key.enter]).map _
    rw [List.map_append, List.map_append, Key.map_drawnActive_upper (n := 2) (by decide) h₂,
      Key.map_drawnActive_singleton enter 2]
    rfl
  | .tablet, ⟨3, _⟩ =>
    show (c.leftShift ++ g₃.map (Key.upper l) ++ c.rightShift .tablet).map _ =
      (c.leftShift ++ g₃ ++ c.rightShift .tablet).map _
    rw [List.map_append, List.map_append, List.map_append, List.map_append, c.map_drawnActive_leftShift l 3,
      Key.map_drawnActive_upper (n := 3) (by decide) h₃, c.map_drawnActive_rightShift l 3]
    rfl
  | .phone, ⟨4, _⟩ => exact Key.map_drawnActive fun _ _ => .inl rfl
  | .tablet, ⟨4, _⟩ => exact Key.map_drawnActive fun _ _ => .inl rfl
  | .phone, ⟨_ + 5, _⟩ => rfl
  | .tablet, ⟨_ + 5, _⟩ => rfl

/-- The space bar row has no shift key, whatever punctuation the full stop offers. -/
theorem shift_not_mem_spaceBarRow (c : Customizer) (g₁ g₂ g₃ : Row) (form : FormFactor) :
    Key.shift ∉ (⟨composedRows c g₁ g₂ g₃ form⟩ : Page).rowOr spaceBarRow := by
  have drawn : Key.shift.visual ∉ ((⟨composedRows c g₁ g₂ g₃ form⟩ : Page).rowOr spaceBarRow).map Key.visual := by
    cases form with
    | phone =>
      show Key.shift.visual ∉ [.label "?123", .label ",", .icon "space_key", .label ".", .icon "enter_key"]
      decide
    | tablet =>
      show Key.shift.visual ∉
        [.label "?123", .icon "settings_key", .label "/", .icon "space_key", .label ",", .label ".",
          .icon "emoji_action_key"]
      decide
  exact fun h => drawn (List.mem_map_of_mem h)

variable {name : String} {c : Customizer} {grid : Grid} {first second : SymbolMaker} {k : Keyboard}

/-- The letters of a keyboard are drawn as text: the check of its grid lets no icon through. -/
theorem label_of_mem_letters (made : make name c grid first second = .ok k) (form : FormFactor) (n : RowNumber) :
    ∀ key ∈ (k.letters form).rowOr n, ∃ text, key.visual = .label text := by
  obtain ⟨usable, -, -, -, -, rfl⟩ := make_eq_ok_iff.1 made
  intro key hk
  rw [letters_eq_mapKeys, Page.rowOr_mapKeys] at hk
  obtain ⟨plain, hp, rfl⟩ := List.mem_map.1 hk
  rw [Key.visual_offeringEach]
  rcases Page.rowOr_eq_nil_or_mem (grid.page form) n with hn | hrow
  · change plain ∈ (grid.page form).rowOr n at hp
    rw [hn] at hp
    cases hp
  · obtain ⟨letter, hl⟩ := Option.isSome_iff_exists.1 ((usable form).lettered _ hrow plain hp)
    exact ⟨letter, ((Grid.letter?_eq_some_iff plain letter).1 hl).1⟩

/-! ## Which pages there are -/

/-- A keyboard has the page of an element that is no page of symbols, except for pads and for shifted letters of a
script without upper case. -/
theorem page?_eq_none_iff (k : Keyboard) (form : FormFactor) {element : Element} (h : element.isSymbols = false) :
    k.page? form element = none ↔
      element ∈ [.phonePad, .phonePadSymbols, .numberPad] ∨ element.isShifted = true ∧ k.grid.caseless = true := by
  cases element with
  | symbols => cases h
  | symbolsShifted => cases h
  | letters => simp [page?, Element.isShifted]
  | shifted state => simp [page?, shiftedLetters?, Element.isShifted]
  | phonePad => simp [page?, shiftedLetters?, Element.isShifted]
  | phonePadSymbols => simp [page?, shiftedLetters?, Element.isShifted]
  | numberPad => simp [page?, shiftedLetters?, Element.isShifted]

theorem page?_shifted_eq_some_iff (k : Keyboard) (form : FormFactor) (state : ShiftState) (page : Page) :
    k.page? form (.shifted state) = some page ↔ k.grid.caseless = false ∧
      page = (complete k.customizer form ((k.letters form).upper k.customizer.locale)).mapKeys Key.drawnActive := by
  have drawn : ∀ p : Page, p.replaceAll .shift .shiftActive = p.mapKeys Key.drawnActive := fun _ => rfl
  simp only [page?, shiftedLetters?, Element.isShifted, Bool.true_and, drawn]
  cases k.grid.caseless with
  | true => simp
  | false => simp [eq_comm]

theorem rowOr_mk (page : Page) {rows : List Row} (h : page.rows = rows) (n : RowNumber) :
    page.rowOr n = (⟨rows⟩ : Page).rowOr n := by
  unfold Page.rowOr
  rw [h]

theorem rowCount_upper_letters_le (made : make name c grid first second = .ok k) (form : FormFactor) :
    ((k.letters form).upper c.locale).rowCount ≤ maxGridRows := by
  rw [Page.upper, Page.rowCount_mapKeys]
  exact rowCount_letters_le made form

/-- Every row of a shifted page is the row of the page of letters, each key changed where it stands. -/
theorem rowOr_shifted (made : make name c grid first second = .ok k) (form : FormFactor) (n : RowNumber) :
    ((complete c form ((k.letters form).upper c.locale)).mapKeys Key.drawnActive).rowOr n =
      ((complete c form (k.letters form)).rowOr n).map (Key.shiftedIn c.locale n) := by
  rw [Page.rowOr_mapKeys, rowOr_mk _ (rows_complete c form _ (rowCount_upper_letters_le made form)),
    rowOr_mk _ (rows_complete c form _ (rowCount_letters_le made form))]
  simp only [Page.upper, Page.rowOr_mapKeys]
  exact rowOr_composedRows_upper c c.locale form n (label_of_mem_letters made form 1) (label_of_mem_letters made form 2)
    (label_of_mem_letters made form 3)

theorem shape_shifted (made : make name c grid first second = .ok k) (form : FormFactor) :
    ((complete c form ((k.letters form).upper c.locale)).mapKeys Key.drawnActive).shape =
      (complete c form (k.letters form)).shape := by
  have four : (complete c form (k.letters form)).rowCount = 4 :=
    rowCount_complete_of_le c form (rowCount_letters_le made form)
  have upper_four : ((complete c form ((k.letters form).upper c.locale)).mapKeys Key.drawnActive).rowCount = 4 := by
    rw [Page.rowCount_mapKeys]
    exact rowCount_complete_of_le c form (rowCount_upper_letters_le made form)
  rw [Page.shape, Page.shape, Page.rows_eq_of_rowCount_four _ four, Page.rows_eq_of_rowCount_four _ upper_four]
  simp only [rowOr_shifted made form, List.map_cons, List.map_nil, List.length_map]

/-- There is no upper case in the space bar row, so all that could change is a shift key, and it has none. -/
theorem map_shiftedIn_spaceBarRow (made : make name c grid first second = .ok k) (form : FormFactor) :
    ((complete c form (k.letters form)).rowOr spaceBarRow).map (Key.shiftedIn c.locale spaceBarRow) =
      (complete c form (k.letters form)).rowOr spaceBarRow := by
  refine map_eq_self fun key hk => ?_
  have plain : key ≠ .shift := by
    rintro rfl
    rw [rowOr_mk _ (rows_complete c form _ (rowCount_letters_le made form))] at hk
    exact shift_not_mem_spaceBarRow c _ _ _ form hk
  unfold Key.shiftedIn
  rw [if_neg plain, if_pos rfl]

/-- **Which pages of letters there are, and what a shifted one is**: there is none for a pad, nor a shifted one of a
script without upper case.  A shifted page is the same however the letters came to be shifted.  It has the shape of the
page of letters; where that has the shift key it has the active shift key, other keys of the rows above the space bar
row are in upper case, with what they show, emit and offer, and the space bar row is the same.  So the plain shift key is
nowhere on it. -/
theorem shifted_page_of_letters_page (made : make name c grid first second = .ok k) (form : FormFactor) :
    (∀ element : Element, element.isSymbols = false → (k.page? form element = none ↔
      element ∈ [.phonePad, .phonePadSymbols, .numberPad] ∨ element.isShifted = true ∧ grid.caseless = true)) ∧
    ∀ state shifted, k.page? form (.shifted state) = some shifted →
      (∀ other, k.page? form (.shifted other) = some shifted) ∧
      ∃ letters, k.page? form .letters = some letters ∧ shifted.shape = letters.shape ∧
        (∀ n, shifted.rowOr n = (letters.rowOr n).map (Key.shiftedIn c.locale n)) ∧
        (∀ (n : RowNumber) (i : Nat) key, n ≠ spaceBarRow → (letters.rowOr n)[i]? = some key →
          (shifted.rowOr n)[i]? = some (if key = .shift then .shiftActive else
            ⟨key.visual.upper c.locale, key.output.upper c.locale, key.more.map (Key.upper c.locale)⟩)) ∧
        shifted.rowOr spaceBarRow = letters.rowOr spaceBarRow ∧ shifted.countOf .shift = 0 := by
  constructor
  · intro element h
    rw [page?_eq_none_iff k form h, grid_of_make made]
  · intro state shifted hs
    obtain ⟨cased, rfl⟩ := (page?_shifted_eq_some_iff k form state shifted).1 hs
    refine ⟨fun other => (page?_shifted_eq_some_iff k form other _).2 ⟨cased, rfl⟩, _, rfl, ?_⟩
    rw [customizer_of_make made]
    have last : ((complete c form ((k.letters form).upper c.locale)).mapKeys Key.drawnActive).rowOr spaceBarRow =
        (complete c form (k.letters form)).rowOr spaceBarRow := by
      rw [rowOr_shifted made, map_shiftedIn_spaceBarRow made]
    refine ⟨shape_shifted made form, rowOr_shifted made form, fun n i key above there => ?_, last,
      Page.countOf_replaceAll _ (by decide)⟩
    rw [rowOr_shifted made, List.getElem?_map, there, Option.map_some, Key.shiftedIn_of_ne above]

/-- In Turkish each of the two letters has its own upper case, also where it is only offered; what the full stop offers
stays as it is. -/
theorem shifted_page_of_letters_page_in_turkish :
    ∃ (c : Customizer) (grid : Grid) (k : Keyboard) (letters shifted : Page),
      make "turkish" c grid FirstSymbols.make SecondSymbols.make = .ok k ∧
      k.page? .tablet .letters = some letters ∧
      letters.rowOr 1 = [.labelOffering "ı" ["i", "ß", "tl"], .labelOffering "i" ["ı"], .delete] ∧
      k.page? .tablet (.shifted .locked) = some shifted ∧
      shifted.rowOr 1 = [.labelOffering "I" ["İ", "SS", "TL"], .labelOffering "İ" ["I"], .delete] ∧
      shifted.rowOr 3 = [.shiftActive, .labelOffering "!" ["¡"], .labelOffering "?" ["¿"], .shiftActive] ∧
      shifted.rowOr 4 = [.toSymbols, .settings, .label "/", .spaceBar, .label ",",
        (Key.label ".").offering (Key.tabletPunctuation ++ Key.labels ["tl"]), .emoji] ∧
      shifted.countOf .shift = 0 := by
  let c : Customizer := { Customizer.standard ⟨"tr", none, by decide +kernel, by decide +kernel⟩ with
    extraPunctuation := Key.labels ["tl"] }
  let row : Row := [.labelOffering "ı" ["i", "ß", "tl"], .labelOffering "i" ["ı"]]
  let grid : Grid := ⟨⟨[row]⟩, none, false⟩
  have usable : ∀ form, (grid.page form).Usable := fun form => by cases form <;> decide +kernel
  obtain ⟨k, made⟩ := exists_make "turkish" c usable
  have cased : k.grid.caseless = false := by rw [grid_of_make made]
  have there := (page?_shifted_eq_some_iff k .tablet .locked _).2 ⟨cased, rfl⟩
  obtain ⟨-, letters, hl, -, rows, -, last, none_left⟩ := (shifted_page_of_letters_page made .tablet).2 .locked _ there
  have composed : letters.rows = composedRows c row [] [] .tablet := by
    obtain rfl : complete k.customizer .tablet (k.letters .tablet) = letters := Option.some.inj hl
    rw [rows_complete_letters made, letters_eq_mapKeys, customizer_of_make made, grid_of_make made]
    rfl
  have first : letters.rowOr 1 = row ++ [.delete] := rowOr_mk letters composed 1
  have third : letters.rowOr 3 = [.shift, .labelOffering "!" ["¡"], .labelOffering "?" ["¿"], .shift] :=
    rowOr_mk letters composed 3
  refine ⟨c, grid, k, letters, _, made, hl, first, there, ?_, ?_, ?_, none_left⟩
  · rw [rows, first]
    decide +kernel
  · rw [rows, third]
    decide +kernel
  · exact last.trans (rowOr_mk letters composed 4)

end Keyboard

end ScreenKeyboard
