import ScreenKeyboard.Proofs.CheckedDefinition
import ScreenKeyboard.Proofs.DefinedLetters
import ScreenKeyboard.Proofs.FieldPaths
import ScreenKeyboard.Proofs.Icons
import ScreenKeyboard.Proofs.Reload
/-!
# What warnings tell of the page of letters

A definition that passed its check comes with the warnings that were found, and two of them are about what becomes of
the page of letters: shift keys on a keyboard without upper case, and accents for a letter that is not there.  The check
looks at the definition and not at the page, and it misses one case of each.  Shift keys are there by default, and no
warning is given of those (`shift_warned_iff`).  A fourth row makes way for the space bar, so accents of its letters are
lost; there is a warning of the row, but none of the accents (`accents_stand_or_row_warned`).
-/
namespace ScreenKeyboard

/-! ## Where issues are -/

namespace Issue

/-- The issue is about a field, or about something in it. -/
def Within (field : String) (issue : Issue) : Prop := field.toList <+: issue.field.toList

theorem Within.ne {field : String} {issue other : Issue} (within : issue.Within field)
    (apart : ¬ field.toList <+: other.field.toList) : issue ≠ other := by
  rintro rfl
  exact apart within

end Issue

namespace Grid

theorem within_countIssues (field : String) (count : Nat) : ∀ issue ∈ countIssues field count, issue.Within field := by
  intro issue found
  unfold countIssues at found
  split at found
  · obtain rfl := List.mem_singleton.1 found
    exact List.prefix_rfl
  · split at found
    · obtain rfl := List.mem_singleton.1 found
      exact prefix_itemPath field _
    · split at found
      · obtain rfl := List.mem_singleton.1 found
        exact List.prefix_rfl
      · cases found

theorem within_keyIssues (path : String) : ∀ (keys : List Key) (seen : List String) (index : Nat),
    ∀ issue ∈ keyIssues path seen index keys, issue.Within path
  | [], _, _, _, found => by cases found
  | key :: keys, seen, index, issue, found => by
    rw [keyIssues] at found
    cases shown : letter? key with
    | none =>
      rw [shown] at found
      rcases List.mem_cons.1 found with rfl | later
      · exact prefix_itemPath path index
      · exact within_keyIssues path keys _ _ issue later
    | some letter =>
      rw [shown] at found
      rcases List.mem_append.1 found with own | later
      · split at own
        · obtain rfl := List.mem_singleton.1 own
          exact prefix_itemPath path index
        · cases own
      · exact within_keyIssues path keys _ _ issue later

theorem within_rowIssues (field : String) : ∀ (rows : List Row) (seen : List String) (index : Nat),
    ∀ issue ∈ rowIssues field seen index rows, issue.Within field
  | [], _, _, _, found => by cases found
  | row :: rows, seen, index, issue, found => by
    rw [rowIssues] at found
    rcases List.mem_append.1 found with own | later
    · split at own
      · obtain rfl := List.mem_singleton.1 own
        exact prefix_itemPath field index
      · exact (prefix_itemPath field index).trans (within_keyIssues _ row _ _ issue own)
    · exact within_rowIssues field rows _ _ issue later

theorem within_pageIssues (field : String) (page : Page) : ∀ issue ∈ pageIssues field page, issue.Within field := by
  intro issue found
  unfold pageIssues at found
  split at found
  · obtain rfl := List.mem_singleton.1 found
    exact List.prefix_rfl
  · rcases List.mem_append.1 found with counted | listed
    · exact within_countIssues field _ issue counted
    · exact within_rowIssues field _ _ _ issue listed

def accentWarning (letter : String) : Issue :=
  .warning ("Accents are defined for '" ++ letter ++ "', which is not on the keyboard")
    ("customizer.accented_letters." ++ letter) (some "Remove the entry or add the letter to the grid")

def replacedRowWarning (field : String) : Issue :=
  .warning ("Row " ++ toString spaceBarRow.val ++ " is replaced by the spacebar row")
    (itemPath field spaceBarRow.index) (some "Move these keys to a letter row")

theorem mem_accentIssues_iff (grid : Grid) (letter : String) (issue : Issue) :
    issue ∈ grid.accentIssues letter ↔
      issue = accentWarning letter ∧ ∃ form, (grid.page form).hasLabel letter = false := by
  have everywhere : (FormFactor.all.all fun form => (grid.page form).hasLabel letter) = true ↔
      ∀ form, (grid.page form).hasLabel letter = true := by
    rw [List.all_eq_true]
    exact ⟨fun all form => all form (by cases form <;> decide), fun all form _ => all form⟩
  unfold accentIssues
  split
  · rename_i all
    simp [everywhere.1 all]
  · rename_i missing
    rw [everywhere, Classical.not_forall] at missing
    obtain ⟨form, missing⟩ := missing
    have absent : ∃ form, (grid.page form).hasLabel letter = false := ⟨form, eq_false_of_ne_true missing⟩
    rw [List.mem_singleton, and_iff_left absent]
    exact Iff.rfl

/-- The fields that issues of a grid are about. -/
def fields : List String := ["phone_rows", "tablet_rows", "customizer.accented_letters."]

theorem within_issues (grid : Grid) (accented : List String) :
    ∀ issue ∈ grid.issues accented, ∃ field ∈ fields, issue.Within field := by
  intro issue found
  rcases List.mem_append.1 found with found | accents
  · rcases List.mem_append.1 found with phone | tablet
    · exact ⟨"phone_rows", by decide, within_pageIssues _ _ issue phone⟩
    · cases own : grid.tablet with
      | none =>
        rw [own] at tablet
        cases tablet
      | some page =>
        rw [own] at tablet
        exact ⟨"tablet_rows", by decide, within_pageIssues _ page issue tablet⟩
  · obtain ⟨letter, -, found⟩ := List.mem_flatMap.1 accents
    obtain ⟨rfl, -⟩ := (mem_accentIssues_iff grid letter issue).1 found
    refine ⟨"customizer.accented_letters.", by decide, ?_⟩
    show _ <+: ("customizer.accented_letters." ++ letter).toList
    rw [String.toList_append]
    exact List.prefix_append _ _

theorem mem_pageIssues_of_rowCount (field : String) {page : Page} (four : page.rowCount = spaceBarRow.val) :
    replacedRowWarning field ∈ pageIssues field page := by
  have rows : page.rows ≠ [] := by
    intro none
    rw [Page.rowCount, none] at four
    cases four
  have few : ¬ page.rowCount > maxGridRows := Nat.not_lt.2 (Nat.le_of_eq four)
  unfold pageIssues countIssues
  rw [if_neg rows, if_neg few, if_pos four]
  exact List.mem_append_left _ (List.mem_singleton_self _)

end Grid

namespace Definition

variable {d : Definition} {checked : Checked}

/-- Whoever passes the check is told of everything that was found. -/
theorem mem_warnings_iff (passed : d.check = .ok checked) (issue : Issue) :
    issue ∈ checked.warnings ↔ issue ∈ d.issues := by
  obtain ⟨settled, -⟩ := (d.check_eq_ok_iff checked).1 passed
  obtain ⟨-, sorted⟩ := (Issue.settle_eq_ok_iff _ _).1 settled
  rw [sorted]
  exact (Issue.perm_sort d.issues).mem_iff

/-! ## Shift keys -/

def shiftWarning : Issue :=
  .warning "Caseless layout keeps its shift keys" "customizer.has_shift_key"
    (some "Set has_shift_key to false for scripts without letter case")

theorem shiftWarning_mem_issues_iff :
    shiftWarning ∈ d.issues ↔ d.isCaseless = true ∧ d.policy.hasShift = some true := by
  have name : shiftWarning ∉ d.nameIssues := by
    unfold nameIssues
    split
    · rw [List.mem_singleton]
      decide
    · exact List.not_mem_nil
  have grid : shiftWarning ∉ (Grid.ofDefinition d).issues d.accentedLetters := by
    intro found
    obtain ⟨field, listed, within⟩ := Grid.within_issues _ _ _ found
    have apart : ∀ field ∈ Grid.fields, ¬ field.toList <+: shiftWarning.field.toList := by decide
    exact within.ne (apart field listed) rfl
  rw [issues, List.mem_append, List.mem_append, or_iff_left grid, or_iff_right name, shiftIssues]
  split
  · rename_i both
    exact iff_of_true (List.mem_singleton_self _) both
  · rename_i notBoth
    exact iff_of_false List.not_mem_nil notBoth

/-! ## Accents -/

def rowsField (d : Definition) : FormFactor → String
  | .phone => "phone_rows"
  | .tablet => if d.tabletRows.isSome then "tablet_rows" else "phone_rows"

/-- Each form factor is looked at, tablets under the rows of phones where they have no rows of their own. -/
theorem mem_issues_of_mem_pageIssues (form : FormFactor) {issue : Issue}
    (found : issue ∈ Grid.pageIssues (d.rowsField form) ((Grid.ofDefinition d).page form)) : issue ∈ d.issues := by
  refine List.mem_append_right _ (List.mem_append_left _ ?_)
  cases form with
  | phone => exact List.mem_append_left _ found
  | tablet =>
    cases own : d.tabletRows with
    | none =>
      simp only [rowsField, Grid.ofDefinition, Grid.page, own] at found ⊢
      exact List.mem_append_left _ found
    | some rows =>
      simp only [rowsField, Grid.ofDefinition, Grid.page, own] at found ⊢
      exact List.mem_append_right _ found

theorem mem_accentedLetters {letter : String} {texts : List String}
    (accents : d.policy.accents.bind (·.get? letter) = some texts) : letter ∈ d.accentedLetters := by
  obtain ⟨given, own, looked⟩ := Option.bind_eq_some_iff.1 accents
  unfold accentedLetters
  rw [own, Option.map_some, Option.getD_some]
  exact List.mem_map_of_mem (mem_of_lookup_eq_some looked)

/-- Accents that the check does not warn of are for a letter of every form factor. -/
theorem exists_spec_of_unwarned (passed : d.check = .ok checked) {letter : String} (listed : letter ∈ d.accentedLetters)
    (unwarned : Grid.accentWarning letter ∉ checked.warnings) (form : FormFactor) :
    ∃ n, ∃ spec ∈ d.rowOr form n, spec.label = letter := by
  have there : ((Grid.ofDefinition d).page form).hasLabel letter = true := by
    cases present : ((Grid.ofDefinition d).page form).hasLabel letter with
    | true => rfl
    | false =>
      have found : Grid.accentWarning letter ∈ (Grid.ofDefinition d).accentIssues letter :=
        (Grid.mem_accentIssues_iff _ _ _).2 ⟨rfl, form, present⟩
      have issue : Grid.accentWarning letter ∈ d.issues :=
        List.mem_append_right _ (List.mem_append_right _ (List.mem_flatMap.2 ⟨letter, listed, found⟩))
      exact absurd ((mem_warnings_iff passed _).2 issue) unwarned
  obtain ⟨key, hk, drawn⟩ := (Page.hasLabel_iff_exists _ letter).1 there
  obtain ⟨n, hk⟩ := (Page.mem_keys_iff _ key).1 hk
  rw [d.page_ofDefinition, d.rowOr_pageOfSpecs] at hk
  obtain ⟨spec, hs, rfl⟩ := List.mem_map.1 hk
  rw [spec.key_eq] at drawn
  exact ⟨n, spec, hs, Visual.label.inj drawn⟩

end Definition

namespace Keyboard

variable {d : Definition} {checked : Checked} {locale : Locale} {first second : SymbolMaker} {k : Keyboard}
  {form : FormFactor}

theorem has_shift_letters_page_iff (made : ofDefinition d first second = .ok k) {page : Page}
    (there : k.page? form .letters = some page) : page.has .shift = true ↔ d.policy.hasShift ≠ some false := by
  obtain ⟨locale, -, made⟩ := make_of_ofDefinition made
  have counted := (census_of_icons (.inl rfl) (icons_of_letters_page made there)).shift.1
  have chosen : (Customizer.ofPolicy locale d.policy).hasShift = d.policy.hasShift.getD true := rfl
  unfold Page.has
  rw [counted, chosen, decide_eq_true_iff]
  cases d.policy.hasShift with
  | none => cases form <;> decide
  | some hasShift => cases hasShift <;> cases form <;> decide

/-- **Of shift keys without upper case a warning is given exactly where the definition asks for them.**  They stand on
the page of letters wherever the definition does not refuse them, so the warning tells of them unless the definition
says nothing about shift keys. -/
theorem shift_warned_iff (located : d.locale = some locale) (passed : d.check = .ok checked) :
    (∃ k, ofDefinition d FirstSymbols.make SecondSymbols.make = .ok k) ∧
    (Definition.shiftWarning ∈ checked.warnings ↔ d.isCaseless = true ∧ d.policy.hasShift = some true) ∧
    ∀ first second k, ofDefinition d first second = .ok k → ∀ form, ∃ page, k.page? form .letters = some page ∧
      (page.has .shift = true ↔ d.policy.hasShift ≠ some false) ∧
      ((Definition.shiftWarning ∈ checked.warnings ↔ d.isCaseless = true ∧ page.has .shift = true) ↔
        ¬ (d.isCaseless = true ∧ d.policy.hasShift = none)) := by
  have warned : Definition.shiftWarning ∈ checked.warnings ↔ d.isCaseless = true ∧ d.policy.hasShift = some true :=
    (Definition.mem_warnings_iff passed _).trans Definition.shiftWarning_mem_issues_iff
  refine ⟨(exists_ofDefinition_iff located).2 ⟨checked, passed⟩, warned, fun first second k made form => ?_⟩
  have there : k.page? form .letters = some (complete k.customizer form (k.letters form)) := rfl
  have shown := has_shift_letters_page_iff made there
  refine ⟨_, there, shown, ?_⟩
  rw [warned, shown]
  cases d.isCaseless with
  | false => simp
  | true =>
    cases d.policy.hasShift with
    | none => simp
    | some hasShift => cases hasShift <;> simp

/-- A definition without upper case that says nothing about shift keys. -/
def unsetShift : Definition := { Definition.unset with
  name := "caseless"
  locale := Locale.parse? "en"
  phoneRows := [[.plain "a"], [.plain "b"], [.plain "c"]]
  caseless := some true }

/-- The file is accepted without a warning, and its keyboard has a shift key and no page behind it. -/
theorem shift_warned_iff_of_unset_shift :
    ∃ (k : Keyboard) (page : Page), Definition.load unsetShift.toJson.compact = .ok ⟨unsetShift, []⟩ ∧
      ofDefinition unsetShift FirstSymbols.make SecondSymbols.make = .ok k ∧
      k.page? .phone .letters = some page ∧ page.has .shift = true ∧ k.page? .phone (.shifted .manual) = none := by
  have loaded := Definition.load_compact_of_sound (d := unsetShift) rfl (by decide +kernel)
  have passed := Definition.check_of_accepted (.ofText loaded)
  obtain ⟨⟨k, made⟩, -, pages⟩ := shift_warned_iff (d := unsetShift) rfl passed
  obtain ⟨page, there, shown, -⟩ := pages _ _ k made .phone
  obtain ⟨locale, -, made'⟩ := make_of_ofDefinition made
  have none : k.page? .phone (.shifted .manual) = none := by
    rw [page?_eq_none_iff k .phone rfl, grid_of_make made']
    exact .inr ⟨rfl, rfl⟩
  exact ⟨k, page, loaded, made, there, shown.2 nofun, none⟩

/-- The letters of the rows above the space bar row stand on the page as they are. -/
theorem mem_letters_page_of_mem_letters (made : ofDefinition d first second = .ok k) {n : RowNumber}
    (above : n.val < spaceBarRow.val) {key : Key} (there : key ∈ (k.letters form).rowOr n) :
    key ∈ (complete k.customizer form (k.letters form)).rowOr n := by
  obtain ⟨locale, -, made⟩ := make_of_ofDefinition made
  rw [rowOr_mk _ (rows_complete_letters made form)]
  rcases eq_of_lt_spaceBarRow above with rfl | rfl | rfl
  · cases form with
    | phone => exact there
    | tablet => exact List.mem_append_left _ there
  · cases form with
    | phone => exact there
    | tablet => exact List.mem_append_left _ there
  · cases form with
    | phone => exact List.mem_append_left _ (List.mem_append_right _ there)
    | tablet => exact List.mem_append_left _ (List.mem_append_right _ there)

/-- **Accents that the check does not warn of stand on the page of letters, or there is a warning of the row**: their
letter offers them on the page, unless it stands in the fourth row of the grid alone, which makes way for the space
bar. -/
theorem accents_stand_or_row_warned {letter : String} {texts : List String} (located : d.locale = some locale)
    (passed : d.check = .ok checked) (accents : d.policy.accents.bind (·.get? letter) = some texts)
    (unwarned : Grid.accentWarning letter ∉ checked.warnings) :
    (∃ k, ofDefinition d FirstSymbols.make SecondSymbols.make = .ok k) ∧
    ∀ first second k, ofDefinition d first second = .ok k → ∀ form, ∃ page, k.page? form .letters = some page ∧
      ((∃ n : RowNumber, n.val < spaceBarRow.val ∧ .labelOffering letter texts ∈ page.rowOr n) ∨
        letter ∉ (d.lettersAbove form).map KeySpec.label ∧ letter ∈ (d.rowOr form spaceBarRow).map KeySpec.label ∧
          Grid.replacedRowWarning (d.rowsField form) ∈ checked.warnings) := by
  refine ⟨(exists_ofDefinition_iff located).2 ⟨checked, passed⟩, fun first second k made form => ⟨_, rfl, ?_⟩⟩
  by_cases above : letter ∈ (d.lettersAbove form).map KeySpec.label
  · left
    obtain ⟨spec, hs, rfl⟩ := List.mem_map.1 above
    obtain ⟨n, low, hs⟩ := (d.mem_lettersAbove_iff form spec).1 hs
    refine ⟨n, low, mem_letters_page_of_mem_letters made low ?_⟩
    have offered : d.offers spec = texts := by rw [Definition.offers, accents, Option.getD_some]
    rw [rowOr_letters made, ← offered]
    exact List.mem_map_of_mem hs
  · right
    obtain ⟨n, spec, hs, rfl⟩ :=
      Definition.exists_spec_of_unwarned passed (Definition.mem_accentedLetters accents) unwarned form
    -- The letter is in none of the first three rows, and there is no fifth one.
    have low : ¬ n.val < spaceBarRow.val := fun low =>
      above (List.mem_map_of_mem ((d.mem_lettersAbove_iff form spec).2 ⟨n, low, hs⟩))
    have bound := Definition.val_le_length_of_mem_rowOr hs
    have few := length_rows_le made form
    have last : n.val = spaceBarRow.val := Nat.le_antisymm (Nat.le_trans bound few) (Nat.le_of_not_lt low)
    obtain rfl : n = spaceBarRow := RowNumber.index_inj.1 (congrArg (· - 1) last)
    have four : ((Grid.ofDefinition d).page form).rowCount = spaceBarRow.val := by
      rw [d.page_ofDefinition, Page.rowCount, Grid.pageOfSpecs, List.length_map]
      exact Nat.le_antisymm few bound
    exact ⟨above, List.mem_map_of_mem hs, (Definition.mem_warnings_iff passed _).2
      (Definition.mem_issues_of_mem_pageIssues form (Grid.mem_pageIssues_of_rowCount _ four))⟩

/-- Four rows of one letter each, of which the first one and the last one have accents. -/
def fourRows : Definition := { Definition.unset with
  name := "fourth"
  locale := Locale.parse? "en"
  phoneRows := [[.plain "a"], [.plain "b"], [.plain "c"], [.plain "z"]]
  policy := { Policy.unset with accents := some ⟨[("a", ["á"]), ("z", ["ž"])], by decide +kernel⟩ } }

theorem noError_fourRows : Issue.NoError fourRows.issues := by decide +kernel

theorem accents_stand_or_row_warned_of_four_rows :
    ∃ (checked : Checked) (k : Keyboard) (page : Page) (n : RowNumber), fourRows.check = .ok checked ∧
      Grid.accentWarning "a" ∉ checked.warnings ∧ ofDefinition fourRows FirstSymbols.make SecondSymbols.make = .ok k ∧
      k.page? .tablet .letters = some page ∧ n.val < spaceBarRow.val ∧ .labelOffering "a" ["á"] ∈ page.rowOr n := by
  have passed := Definition.check_of_noError noError_fourRows
  have accents : fourRows.policy.accents.bind (·.get? "a") = some ["á"] := by decide +kernel
  have unwarned : Grid.accentWarning "a" ∉ Issue.sort fourRows.issues := by
    rw [Definition.mem_warnings_iff passed]
    decide +kernel
  obtain ⟨⟨k, made⟩, pages⟩ := accents_stand_or_row_warned rfl passed accents unwarned
  obtain ⟨page, there, stands⟩ := pages _ _ k made .tablet
  obtain ⟨n, above, offers⟩ := stands.resolve_right fun lost => lost.1 (by decide +kernel)
  exact ⟨_, k, page, n, passed, unwarned, made, there, above, offers⟩

/-- The letter of the fourth row is nowhere on the page, so its accents are lost, and no warning says so. -/
theorem accents_of_fourth_row_are_lost :
    ∃ (checked : Checked) (k : Keyboard) (page : Page), fourRows.check = .ok checked ∧
      fourRows.policy.accents.bind (·.get? "z") = some ["ž"] ∧ Grid.accentWarning "z" ∉ checked.warnings ∧
      ofDefinition fourRows FirstSymbols.make SecondSymbols.make = .ok k ∧ k.page? .phone .letters = some page ∧
      ∀ key ∈ page.keys, key.visual ≠ .label "z" := by
  have passed := Definition.check_of_noError noError_fourRows
  obtain ⟨k, made⟩ := (exists_ofDefinition_iff (d := fourRows) rfl).2 ⟨_, passed⟩
  have there : k.page? .phone .letters = some (complete k.customizer .phone (k.letters .phone)) := rfl
  have around : ∀ key ∈ aroundLetters, key.visual ≠ .label "z" := by decide
  have fullStop : (Key.label ".").visual ≠ .label "z" := by decide
  refine ⟨_, k, _, passed, by decide +kernel, ?_, made, there, ?_⟩
  · rw [Definition.mem_warnings_iff passed]
    decide +kernel
  · refine (forall_mem_letters_page_iff around made there).2 ⟨?_, fullStop⟩
    decide +kernel

end Keyboard

end ScreenKeyboard
