import ScreenKeyboard.Proofs.ShiftedPage
import ScreenKeyboard.Proofs.Steps
/-!
# Every key of a keyboard

What is drawn and what is emitted can be looked at key by key, and at every depth, for what a key offers are keys again
(`Key.Throughout`).  The keys of a page come from few places: those that every keyboard has are in stock, and the others
come from the grid and from the customizer.  So what holds of these and is not lost in upper case holds of every key on
every page (`throughout_page`).
-/
namespace ScreenKeyboard

variable {P Q : Visual → Output → Prop}

namespace Key

/-- **A property of what is drawn and emitted**, by a key and by everything that it offers, at every depth. -/
inductive Throughout (P : Visual → Output → Prop) : Key → Prop
  | mk {visual : Visual} {output : Output} {more : List Key} (here : P visual output)
    (offered : ∀ key ∈ more, Throughout P key) : Throughout P ⟨visual, output, more⟩

theorem throughout_mk_iff {visual : Visual} {output : Output} {more : List Key} :
    Throughout P ⟨visual, output, more⟩ ↔ P visual output ∧ ∀ key ∈ more, key.Throughout P := by
  constructor
  · rintro ⟨here, offered⟩
    exact ⟨here, offered⟩
  · rintro ⟨here, offered⟩
    exact .mk here offered

mutual

def decThroughout [∀ v o, Decidable (P v o)] : (key : Key) → Decidable (key.Throughout P)
  | ⟨visual, output, more⟩ =>
    have := decThroughoutList more
    decidable_of_iff (P visual output ∧ ∀ key ∈ more, key.Throughout P) throughout_mk_iff.symm

def decThroughoutList [∀ v o, Decidable (P v o)] : (keys : List Key) → Decidable (∀ key ∈ keys, key.Throughout P)
  | [] => .isTrue (List.forall_mem_nil _)
  | key :: keys =>
    have := decThroughout key
    have := decThroughoutList keys
    decidable_of_iff (key.Throughout P ∧ ∀ k ∈ keys, k.Throughout P) List.forall_mem_cons.symm

end

instance [∀ v o, Decidable (P v o)] (key : Key) : Decidable (key.Throughout P) := decThroughout key

theorem Throughout.mono (h : ∀ v o, P v o → Q v o) {key : Key} (all : key.Throughout P) : key.Throughout Q := by
  induction all with
  | mk here _ ih => exact .mk (h _ _ here) ih

theorem Throughout.offering {key : Key} (all : key.Throughout P) {more : List Key}
    (offered : ∀ k ∈ more, k.Throughout P) : (key.offering more).Throughout P := by
  cases all with
  | mk here _ => exact .mk here offered

theorem throughout_label {text : String} (h : P (.label text) (.ofLabel text)) : (label text).Throughout P :=
  .mk h (List.forall_mem_nil _)

theorem throughout_labels {texts : List String} (h : ∀ text ∈ texts, P (.label text) (.ofLabel text)) :
    ∀ key ∈ labels texts, key.Throughout P := by
  intro key hk
  obtain ⟨text, ht, rfl⟩ := List.mem_map.1 hk
  exact throughout_label (h text ht)

theorem Throughout.upper {l : Locale} (kept : ∀ v o, P v o → P (v.upper l) (o.upper l)) {key : Key}
    (all : key.Throughout P) : (key.upper l).Throughout P := by
  induction all with
  | mk here _ ih =>
    rw [upper_mk]
    refine .mk (kept _ _ here) fun key hk => ?_
    obtain ⟨plain, hp, rfl⟩ := List.mem_map.1 hk
    exact ih plain hp

theorem Throughout.offeringEach : ∀ {offers : List (String × List Key)} {key : Key},
    (∀ offer ∈ offers, ∀ k ∈ offer.2, k.Throughout P) → key.Throughout P → (key.offeringEach offers).Throughout P
  | [], _, _, all => all
  | offer :: offers, key, h, all => by
    obtain ⟨first, rest⟩ := List.forall_mem_cons.1 h
    rw [offeringEach_cons]
    refine .offeringEach rest ?_
    split
    · exact all.offering first
    · exact all

/-! ## Stock -/

/-- What the functions of a keyboard show and emit. -/
def functions : List (Visual × Output) :=
  [capsLock, shift, shiftActive, toLetters, toSymbols, backToSymbols, moreSymbols, moreSymbolsTablet, delete, enter,
    emoji, settings, spaceBar].map fun key => (key.visual, key.output)

/-- **What every keyboard has in stock**: functions, and labels that are not empty and emit what they show. -/
def Stock : Visual → Output → Prop
  | .label text, output => text ≠ "" ∧ output = .ofLabel text ∨ (.label text, output) ∈ functions
  | .icon name, output => (.icon name, output) ∈ functions

instance : ∀ visual output, Decidable (Stock visual output)
  | .label _, _ => inferInstanceAs (Decidable (_ ∨ _))
  | .icon _, _ => inferInstanceAs (Decidable (_ ∈ _))

end Key

/-! ## Pages -/

namespace Page

def Throughout (P : Visual → Output → Prop) (page : Page) : Prop := ∀ key ∈ page.keys, key.Throughout P

variable {page : Page} {row : Row}

theorem mem_modifyGrowing (f : Row → Row) {key : Key} : ∀ (n : Nat) (rows : List Row),
    key ∈ (modifyGrowing f n rows).flatten → key ∈ rows.flatten ∨ key ∈ f (rows.getD n [])
  | 0, [], h => by simpa [modifyGrowing] using h
  | 0, row :: rows, h => by
    rcases List.mem_append.1 h with h | h
    · exact .inr h
    · exact .inl (List.mem_append_right row h)
  | n + 1, [], h => by
    rcases mem_modifyGrowing f n [] (by simpa [modifyGrowing] using h) with h | h
    · cases h
    · exact .inr h
  | n + 1, row :: rows, h => by
    rcases List.mem_append.1 h with h | h
    · exact .inl (List.mem_append_left _ h)
    · exact (mem_modifyGrowing f n rows h).imp_left (List.mem_append_right row)

theorem mem_keys_of_mem_rowOr {n : RowNumber} {key : Key} (h : key ∈ page.rowOr n) : key ∈ page.keys := by
  rcases page.rowOr_eq_nil_or_mem n with none | there
  · rw [none] at h
    cases h
  · exact List.mem_flatten.2 ⟨_, there, h⟩

theorem Throughout.modifyRow (all : page.Throughout P) (n : RowNumber) {f : Row → Row}
    (h : ∀ key ∈ f (page.rowOr n), key.Throughout P) : (page.modifyRow n f).Throughout P := by
  intro key hk
  rcases mem_modifyGrowing f n.index page.rows hk with old | new
  · exact all key old
  · exact h key new

theorem Throughout.addLeft (all : page.Throughout P) (n : RowNumber) (h : ∀ key ∈ row, key.Throughout P) :
    (page.addLeft n row).Throughout P := by
  refine all.modifyRow n fun key hk => ?_
  rcases List.mem_append.1 hk with new | old
  · exact h key new
  · exact all key (mem_keys_of_mem_rowOr old)

theorem Throughout.addRight (all : page.Throughout P) (n : RowNumber) (h : ∀ key ∈ row, key.Throughout P) :
    (page.addRight n row).Throughout P := by
  refine all.modifyRow n fun key hk => ?_
  rcases List.mem_append.1 hk with old | new
  · exact all key (mem_keys_of_mem_rowOr old)
  · exact h key new

theorem Throughout.mapKeys (all : page.Throughout P) {f : Key → Key}
    (kept : ∀ key : Key, key.Throughout P → (f key).Throughout P) : (page.mapKeys f).Throughout P := by
  intro key hk
  rw [keys_mapKeys] at hk
  obtain ⟨old, ho, rfl⟩ := List.mem_map.1 hk
  exact kept old (all old ho)

theorem Throughout.fill (all : page.Throughout P) {label : String} (h : ∀ key ∈ row, key.Throughout P) {filled : Page}
    (done : page.fill label row = .ok filled) : filled.Throughout P := by
  unfold Page.fill replaceLabel? at done
  split at done
  · rename_i there
    split at there
    · cases there
      cases done
      intro key hk
      obtain ⟨_, made, hk⟩ := List.mem_flatten.1 hk
      obtain ⟨old, hold, rfl⟩ := List.mem_map.1 made
      obtain ⟨k, hk', hk⟩ := List.mem_flatMap.1 hk
      split at hk
      · exact h key hk
      · obtain rfl := List.mem_singleton.1 hk
        exact all key (List.mem_flatten.2 ⟨old, hold, hk'⟩)
    · cases there
  · cases done

end Page

/-! ## Pages of symbols -/

namespace Customizer

theorem throughout_doubleQuoteOffers (c : Customizer) : ∀ key ∈ c.doubleQuoteOffers, key.Throughout Key.Stock := by
  unfold doubleQuoteOffers
  cases c.doubleQuotes <;> cases c.doubleAngles <;> decide +kernel

theorem throughout_singleQuoteOffers (c : Customizer) : ∀ key ∈ c.singleQuoteOffers, key.Throughout Key.Stock := by
  unfold singleQuoteOffers
  cases c.singleQuotes <;> cases c.singleAngles <;> decide +kernel

end Customizer

namespace SymbolPages

variable {page : Page} {turn : Key}

theorem throughout_onPhone (all : page.Throughout Key.Stock) (h : turn.Throughout Key.Stock) :
    (onPhone turn page).Throughout Key.Stock :=
  all.addLeft 3 (List.forall_mem_singleton.2 h) |>.addRight 3 (by decide) |>.addLeft 4 (by decide)
    |>.addRight 4 (by decide)

theorem throughout_onTablet (all : page.Throughout Key.Stock) (h : turn.Throughout Key.Stock) :
    (onTablet turn page).Throughout Key.Stock :=
  all.addRight 1 (by decide) |>.addRight 2 (by decide) |>.addLeft 3 (List.forall_mem_singleton.2 h)
    |>.addRight 3 (List.forall_mem_singleton.2 h) |>.addLeft 4 (by decide) |>.addRight 4 (by decide)

end SymbolPages

theorem FirstSymbols.throughout_page {c : Customizer} {pages : SymbolPages} (made : make c = .ok pages)
    (form : FormFactor) : (pages.page form).Throughout Key.Stock := by
  obtain ⟨page, filled, rfl⟩ := map_eq_ok_iff.1 made
  obtain ⟨page₁, h₁, filled⟩ := bind_eq_ok_iff.1 filled
  obtain ⟨page₂, h₂, h₃⟩ := bind_eq_ok_iff.1 filled
  have start : common.Throughout Key.Stock := by
    unfold Page.Throughout
    decide +kernel
  have currency : c.currency.key.Throughout Key.Stock := by cases c.currency <;> decide +kernel
  have double : ((Key.label "\"").offering c.doubleQuoteOffers).Throughout Key.Stock :=
    (Key.throughout_label (by decide)).offering c.throughout_doubleQuoteOffers
  have single : ((Key.label "'").offering c.singleQuoteOffers).Throughout Key.Stock :=
    (Key.throughout_label (by decide)).offering c.throughout_singleQuoteOffers
  have all := start.fill (List.forall_mem_singleton.2 currency) h₁
    |>.fill (List.forall_mem_singleton.2 double) h₂ |>.fill (List.forall_mem_singleton.2 single) h₃
  cases form with
  | phone => exact SymbolPages.throughout_onPhone all (by decide)
  | tablet => exact SymbolPages.throughout_onTablet (all.addLeft 3 (by decide)) (by decide)

theorem SecondSymbols.throughout_page {c : Customizer} {pages : SymbolPages} (made : make c = .ok pages)
    (form : FormFactor) : (pages.page form).Throughout Key.Stock := by
  obtain ⟨page, filled, rfl⟩ := map_eq_ok_iff.1 made
  have start : common.Throughout Key.Stock := by
    unfold Page.Throughout
    decide +kernel
  have currencies : ∀ key ∈ c.currency.otherKeys, key.Throughout Key.Stock := by cases c.currency <;> decide +kernel
  have all := start.fill currencies filled
  cases form with
  | phone => exact SymbolPages.throughout_onPhone all (by decide)
  | tablet => exact SymbolPages.throughout_onTablet all (by decide)

/-! ## Pages of letters -/

namespace Keyboard

variable {name : String} {c : Customizer} {grid : Grid} {k : Keyboard}

/-- The keys around some letters are in stock, but for the punctuation that a customizer adds. -/
theorem throughout_complete (stock : ∀ v o, Key.Stock v o → P v o)
    (extra : ∀ key ∈ c.extraPunctuation, key.Throughout P) (form : FormFactor) {page : Page}
    (few : page.rowCount ≤ maxGridRows) (all : page.Throughout P) : (complete c form page).Throughout P := by
  have around : ∀ key ∈ aroundLetters, key.Throughout Key.Stock := by decide +kernel
  have marks : ∀ key ∈ Key.phonePunctuation ++ Key.tabletPunctuation, key.Throughout Key.Stock := by decide +kernel
  have punctuation : ∀ key ∈ c.punctuation form, key.Throughout P := by
    intro key hk
    rcases List.mem_append.1 hk with own | added
    · refine (marks key ?_).mono stock
      cases form with
      | phone => exact List.mem_append_left _ own
      | tablet => exact List.mem_append_right _ own
    · exact extra key added
  have fullStop : ((Key.label ".").offering (c.punctuation form)).Throughout P :=
    (Key.throughout_label (stock _ _ (by decide))).offering punctuation
  have letters : ∀ n, ∀ key ∈ page.rowOr n, key.Throughout P := fun _ key hk => all key (Page.mem_keys_of_mem_rowOr hk)
  unfold Page.Throughout Page.keys
  rw [rows_complete c form page few, forall_mem_composedRows_iff fun key hk => (around key hk).mono stock]
  exact ⟨List.forall_mem_append.2 ⟨List.forall_mem_append.2 ⟨letters 1, letters 2⟩, letters 3⟩, fullStop⟩

/-- **What holds of every key that a keyboard is made from holds of every key on its pages**, at every depth, if it
holds of what is in stock and is not lost in upper case. -/
theorem throughout_page (stock : ∀ v o, Key.Stock v o → P v o)
    (kept : ∀ v o, P v o → P (v.upper c.locale) (o.upper c.locale))
    (made : make name c grid FirstSymbols.make SecondSymbols.make = .ok k)
    (letters : ∀ form, (grid.page form).Throughout P)
    (accents : ∀ offer ∈ c.accents.entries, ∀ key ∈ offer.2, key.Throughout P)
    (extra : ∀ key ∈ c.extraPunctuation, key.Throughout P) {form : FormFactor} {element : Element} {page : Page}
    (there : k.page? form element = some page) : page.Throughout P := by
  have own : ∀ {page : Page}, page.Throughout Key.Stock → page.Throughout P :=
    fun h key hk => (h key hk).mono stock
  have accented : (k.letters form).Throughout P := by
    rw [letters_eq_mapKeys, customizer_of_make made, grid_of_make made]
    exact (letters form).mapKeys fun _ => .offeringEach accents
  have few := rowCount_letters_le made form
  have fewUpper := rowCount_upper_letters_le made form
  obtain ⟨-, symbols, symbolsShifted, hs, hs', rfl⟩ := make_eq_ok_iff.1 made
  cases element with
  | letters =>
    cases there
    exact throughout_complete stock extra form few accented
  | shifted state =>
    obtain ⟨-, rfl⟩ := (page?_shifted_eq_some_iff _ form state page).1 there
    have upper := throughout_complete stock extra form fewUpper (accented.mapKeys fun _ => .upper kept)
    refine upper.mapKeys fun key all => ?_
    unfold Key.drawnActive
    split
    · have active : Key.shiftActive.Throughout Key.Stock := by decide
      exact active.mono stock
    · exact all
  | symbols =>
    cases there
    exact own (FirstSymbols.throughout_page hs form)
  | symbolsShifted =>
    cases there
    exact own (SecondSymbols.throughout_page hs' form)
  | phonePad => cases there
  | phonePadSymbols => cases there
  | numberPad => cases there

/-! ## Definitions -/

/-- The letters of a definition are labels that emit what they show. -/
theorem throughout_ofDefinition (labels : ∀ text, P (.label text) (.ofLabel text)) (d : Definition)
    (form : FormFactor) : ((Grid.ofDefinition d).page form).Throughout P := by
  have specs : ∀ rows : List (List KeySpec), (Grid.pageOfSpecs rows).Throughout P := by
    intro rows key hk
    obtain ⟨_, made, hk⟩ := List.mem_flatten.1 hk
    obtain ⟨row, -, rfl⟩ := List.mem_map.1 made
    obtain ⟨spec, -, rfl⟩ := List.mem_map.1 hk
    cases spec with
    | plain text => exact Key.throughout_label (labels text)
    | offering text more =>
      exact (Key.throughout_label (labels text)).offering (Key.throughout_labels fun text _ => labels text)
  cases form with
  | phone => exact specs d.phoneRows
  | tablet =>
    change ((d.tabletRows.map Grid.pageOfSpecs).getD (Grid.pageOfSpecs d.phoneRows)).Throughout P
    cases d.tabletRows with
    | none => exact specs d.phoneRows
    | some rows => exact specs rows

/-- **What holds of labels and of what is in stock holds of every key of a definition**, on every page and at every
depth. -/
theorem throughout_page_of_definition {d : Definition} (labels : ∀ text, P (.label text) (.ofLabel text))
    (stock : ∀ v o, Key.Stock v o → P v o) (kept : ∀ l v o, P v o → P (v.upper l) (o.upper l))
    (made : ofDefinition d FirstSymbols.make SecondSymbols.make = .ok k) {form : FormFactor} {element : Element}
    {page : Page} (there : k.page? form element = some page) : page.Throughout P := by
  obtain ⟨locale, -, made⟩ := make_of_ofDefinition made
  refine throughout_page stock (kept _) made (throughout_ofDefinition labels d) ?_
    (Key.throughout_labels fun text _ => labels text) there
  intro offer listed
  unfold Customizer.ofPolicy at listed
  cases accents : d.policy.accents with
  | none =>
    rw [accents] at listed
    cases listed
  | some accents' =>
    rw [accents] at listed
    obtain ⟨e, -, rfl⟩ := List.mem_map.1 listed
    exact Key.throughout_labels fun text _ => labels text

end Keyboard

end ScreenKeyboard
