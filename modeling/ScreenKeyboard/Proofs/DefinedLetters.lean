import ScreenKeyboard.Proofs.EveryKey
import ScreenKeyboard.Proofs.Steps
/-!
# The letters of a definition

A definition gives each key a label, and labels to offer; the accents of its policy take their place for a letter that
has some.  No letter has accents twice, so the order in which they are handed out plays no part
(`offeringEach_entries`), and the letters of a keyboard can be read off its definition key by key (`rowOr_letters`).
So what holds of every key on a page of letters can be said of the definition (`forall_mem_letters_page_iff`).
-/
namespace ScreenKeyboard

/-! ## Accents by letter -/

namespace LetterMap

variable {α β : Type}

theorem get?_map (f : α → β) (m : LetterMap α) (letter : String) : (m.map f).get? letter = (m.get? letter).map f :=
  lookup_map_snd f letter m.entries

end LetterMap

namespace Key

theorem hasLabel_eq_iff (key : Key) (text : String) : key.hasLabel text = true ↔ key.label? = some text := by
  rw [hasLabel, beq_iff_eq]

theorem offeringEach_of_unlisted : ∀ (offers : List (String × List Key)) (key : Key),
    (∀ offer ∈ offers, key.label? ≠ some offer.1) → key.offeringEach offers = key
  | [], _, _ => rfl
  | offer :: offers, key, unlisted => by
    obtain ⟨first, rest⟩ := List.forall_mem_cons.1 unlisted
    rw [offeringEach_cons, if_neg (mt (hasLabel_eq_iff key offer.1).1 first),
      offeringEach_of_unlisted offers key rest]

/-- **The key with the accents of its label in the place of what it offered**; the key itself where there are none. -/
def accented (accents : LetterMap (List Key)) (key : Key) : Key :=
  match key.label?.bind accents.get? with
  | some more => key.offering more
  | none => key

theorem offeringEach_sorted : ∀ (entries : List (String × List Key)) (key : Key),
    entries.Pairwise (fun a b => a.1 < b.1) → key.offeringEach entries =
      match key.label?.bind fun text => entries.lookup text with
      | some more => key.offering more
      | none => key
  | [], key, _ => by cases key.label? <;> rfl
  | (letter, more) :: entries, key, sorted => by
    obtain ⟨later, sorted⟩ := List.pairwise_cons.1 sorted
    rw [offeringEach_cons]
    by_cases own : key.label? = some letter
    · -- What comes later is for other letters.
      have unlisted : ∀ offer ∈ entries, (key.offering more).label? ≠ some offer.1 := by
        intro offer listed same
        rw [label?_offering, own, Option.some.injEq] at same
        exact String.lt_irrefl letter (same ▸ later offer listed)
      rw [if_pos ((hasLabel_eq_iff key letter).2 own), offeringEach_of_unlisted _ _ unlisted, own, Option.bind_some,
        List.lookup_cons_self]
    · rw [if_neg (mt (hasLabel_eq_iff key letter).1 own), offeringEach_sorted entries key sorted]
      cases drawn : key.label? with
      | none => rfl
      | some text =>
        have other : (text == letter) = false := beq_false_of_ne fun same => own (by rw [drawn, same])
        rw [Option.bind_some, Option.bind_some, List.lookup_cons, other]

/-- **Handing out accents letter by letter gives each key those of its own label**, in whatever order. -/
theorem offeringEach_entries (accents : LetterMap (List Key)) (key : Key) :
    key.offeringEach accents.entries = key.accented accents :=
  offeringEach_sorted accents.entries key accents.sorted

end Key

/-! ## Rows of a definition -/

def KeySpec.offered : KeySpec → List String
  | .plain _ => []
  | .offering _ more => more

theorem KeySpec.key_eq : ∀ spec : KeySpec, spec.key = .labelOffering spec.label spec.offered
  | .plain _ => rfl
  | .offering _ _ => rfl

namespace Definition

def rows (d : Definition) : FormFactor → List (List KeySpec)
  | .phone => d.phoneRows
  | .tablet => d.tabletRows.getD d.phoneRows

def rowOr (d : Definition) (form : FormFactor) (n : RowNumber) : List KeySpec := (d.rows form).getD n.index []

/-- The keys that stand above the space bar row. -/
def lettersAbove (d : Definition) (form : FormFactor) : List KeySpec :=
  d.rowOr form 1 ++ d.rowOr form 2 ++ d.rowOr form 3

/-- What a key offers in the end: the accents of its label, if the policy has some. -/
def offers (d : Definition) (spec : KeySpec) : List String :=
  (d.policy.accents.bind (·.get? spec.label)).getD spec.offered

theorem mem_lettersAbove_iff (d : Definition) (form : FormFactor) (spec : KeySpec) :
    spec ∈ d.lettersAbove form ↔ ∃ n : RowNumber, n.val < spaceBarRow.val ∧ spec ∈ d.rowOr form n := by
  unfold lettersAbove
  rw [List.mem_append, List.mem_append]
  constructor
  · rintro ((first | second) | third)
    · exact ⟨1, by decide, first⟩
    · exact ⟨2, by decide, second⟩
    · exact ⟨3, by decide, third⟩
  · rintro ⟨n, above, there⟩
    rcases Keyboard.eq_of_lt_spaceBarRow above with rfl | rfl | rfl
    · exact .inl (.inl there)
    · exact .inl (.inr there)
    · exact .inr there

/-- A row with a key in it is one of the rows that there are. -/
theorem val_le_length_of_mem_rowOr {d : Definition} {form : FormFactor} {n : RowNumber} {spec : KeySpec}
    (there : spec ∈ d.rowOr form n) : n.val ≤ (d.rows form).length := by
  have pos := n.pos
  by_cases bound : n.index < (d.rows form).length
  · unfold RowNumber.index at bound
    omega
  · unfold rowOr at there
    rw [List.getD_eq_getElem?_getD, List.getElem?_eq_none (Nat.le_of_not_lt bound)] at there
    cases there

theorem page_ofDefinition (d : Definition) (form : FormFactor) :
    (Grid.ofDefinition d).page form = Grid.pageOfSpecs (d.rows form) := by
  cases form with
  | phone => rfl
  | tablet =>
    show (d.tabletRows.map Grid.pageOfSpecs).getD (Grid.pageOfSpecs d.phoneRows) = _
    cases h : d.tabletRows <;> simp [rows, h]

theorem rowOr_pageOfSpecs (d : Definition) (form : FormFactor) (n : RowNumber) :
    (Grid.pageOfSpecs (d.rows form)).rowOr n = (d.rowOr form n).map KeySpec.key := by
  unfold Page.rowOr rowOr Grid.pageOfSpecs
  rw [List.getD_eq_getElem?_getD, List.getD_eq_getElem?_getD, List.getElem?_map]
  cases (d.rows form)[n.index]? <;> rfl

theorem get?_ofPolicy (locale : Locale) (p : Policy) (letter : String) :
    (Customizer.ofPolicy locale p).accents.get? letter = (p.accents.bind (·.get? letter)).map Key.labels := by
  unfold Customizer.ofPolicy
  cases p.accents with
  | none => rfl
  | some accents => exact accents.get?_map Key.labels letter

theorem accented_key (d : Definition) (locale : Locale) (spec : KeySpec) :
    spec.key.accented (Customizer.ofPolicy locale d.policy).accents = .labelOffering spec.label (d.offers spec) := by
  have drawn : (Key.labelOffering spec.label spec.offered).label? = some spec.label := rfl
  rw [spec.key_eq, Key.accented, drawn, Option.bind_some, get?_ofPolicy, offers]
  cases d.policy.accents.bind (·.get? spec.label) <;> rfl

end Definition

namespace Page

theorem mem_keys_iff (page : Page) (key : Key) : key ∈ page.keys ↔ ∃ n, key ∈ page.rowOr n := by
  constructor
  · intro there
    obtain ⟨row, hrow, hkey⟩ := List.mem_flatten.1 there
    obtain ⟨i, bound, rfl⟩ := List.mem_iff_getElem.1 hrow
    refine ⟨⟨i + 1, i.succ_pos⟩, ?_⟩
    show key ∈ page.rows.getD i []
    rw [List.getD_eq_getElem?_getD, List.getElem?_eq_getElem bound]
    exact hkey
  · rintro ⟨n, there⟩
    exact mem_keys_of_mem_rowOr there

end Page

namespace Keyboard

variable {first second : SymbolMaker} {k : Keyboard}

/-- **The letters of a keyboard, as its definition has them**: each key with its label and with what it offers in the
end, where it stands. -/
theorem rowOr_letters {d : Definition} (made : ofDefinition d first second = .ok k) (form : FormFactor)
    (n : RowNumber) :
    (k.letters form).rowOr n = (d.rowOr form n).map fun spec => .labelOffering spec.label (d.offers spec) := by
  obtain ⟨locale, -, made⟩ := make_of_ofDefinition made
  rw [letters_eq_mapKeys, customizer_of_make made, grid_of_make made, Page.rowOr_mapKeys, d.page_ofDefinition,
    d.rowOr_pageOfSpecs, List.map_map]
  refine List.map_congr_left fun spec _ => ?_
  show spec.key.offeringEach _ = _
  rw [Key.offeringEach_entries, d.accented_key]

/-- No key of a grid that passed its check has an empty label. -/
theorem label_ne_empty {d : Definition} (made : ofDefinition d first second = .ok k) (form : FormFactor)
    (n : RowNumber) : ∀ spec ∈ d.rowOr form n, spec.label ≠ "" := by
  obtain ⟨locale, -, made⟩ := make_of_ofDefinition made
  obtain ⟨usable, -⟩ := make_eq_ok_iff.1 made
  intro spec there
  have listed : spec.key ∈ ((Grid.ofDefinition d).page form).rowOr n := by
    rw [d.page_ofDefinition, d.rowOr_pageOfSpecs]
    exact List.mem_map_of_mem there
  rcases Page.rowOr_eq_nil_or_mem _ n with none | row
  · rw [none] at listed
    cases listed
  · obtain ⟨letter, shown⟩ := Option.isSome_iff_exists.1 ((usable form).lettered _ row _ listed)
    obtain ⟨drawn, filled⟩ := (Grid.letter?_eq_some_iff _ _).1 shown
    rw [spec.key_eq] at drawn
    rw [Visual.label.inj drawn]
    exact filled

theorem label_ne_empty_of_mem_lettersAbove {d : Definition} (made : ofDefinition d first second = .ok k)
    (form : FormFactor) : ∀ spec ∈ d.lettersAbove form, spec.label ≠ "" := by
  intro spec listed
  obtain ⟨n, -, there⟩ := (d.mem_lettersAbove_iff form spec).1 listed
  exact label_ne_empty made form n spec there

theorem length_rows_le {d : Definition} (made : ofDefinition d first second = .ok k) (form : FormFactor) :
    (d.rows form).length ≤ maxGridRows := by
  obtain ⟨locale, -, made⟩ := make_of_ofDefinition made
  obtain ⟨usable, -⟩ := make_eq_ok_iff.1 made
  have few := (usable form).few_rows
  rw [d.page_ofDefinition, Page.rowCount, Grid.pageOfSpecs, List.length_map] at few
  exact few

/-! ## Every key on a page of letters -/

variable {Q : Key → Prop} {d : Definition} {form : FormFactor} {page : Page}

/-- What holds of every key of the page of letters, said of the definition. -/
theorem forall_mem_letters_page_iff (around : ∀ key ∈ aroundLetters, Q key)
    (made : ofDefinition d first second = .ok k) (there : k.page? form .letters = some page) :
    (∀ key ∈ page.keys, Q key) ↔ (∀ spec ∈ d.lettersAbove form, Q (.labelOffering spec.label (d.offers spec))) ∧
      Q ((Key.label ".").offering (k.customizer.punctuation form)) := by
  obtain ⟨locale, -, made'⟩ := make_of_ofDefinition made
  obtain rfl : complete k.customizer form (k.letters form) = page := Option.some.inj there
  rw [Page.keys, rows_complete_letters made', ← customizer_of_make made', forall_mem_composedRows_iff around,
    rowOr_letters made, rowOr_letters made, rowOr_letters made, ← List.map_append, ← List.map_append,
    List.forall_mem_map]
  rfl

/-- A shifted page has what the page of letters has, as far as upper case makes no difference. -/
theorem forall_mem_shifted_page_iff (kept : ∀ l key, Q (key.upper l) ↔ Q key) (shift : Q .shift)
    (active : Q .shiftActive) (made : ofDefinition d first second = .ok k) {state : ShiftState}
    (there : k.page? form (.shifted state) = some page) :
    (∀ key ∈ page.keys, Q key) ↔ ∀ key ∈ (complete k.customizer form (k.letters form)).keys, Q key := by
  obtain ⟨locale, -, made⟩ := make_of_ofDefinition made
  obtain ⟨-, rfl⟩ := (page?_shifted_eq_some_iff k form state page).1 there
  have same : ∀ (l : Locale) (n : RowNumber) (key : Key), Q (key.shiftedIn l n) ↔ Q key := by
    intro l n key
    unfold Key.shiftedIn
    by_cases plain : key = .shift
    · rw [if_pos plain, plain]
      exact iff_of_true active shift
    · rw [if_neg plain]
      split
      · exact Iff.rfl
      · exact kept l key
  simp only [Page.mem_keys_iff, forall_exists_index]
  rw [forall_comm, forall_comm (α := Key)]
  refine forall_congr' fun n => ?_
  rw [customizer_of_make made, rowOr_shifted made, List.forall_mem_map]
  exact forall₂_congr fun key _ => same _ n key

end Keyboard

end ScreenKeyboard
