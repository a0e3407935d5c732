import ScreenKeyboard.Library
import ScreenKeyboard.Proofs.UsableGrid
/-!
# Keyboards of checked definitions

A definition is checked, and when a keyboard is made of it the letters are checked once more, as keys and with the
customizer's accents.  The two checks find the same errors in the same order: what is checked of a definition alone, and
of accents, is worth warnings only.  So a keyboard can be made of every definition that passed its check, and of no
other one (`ofDefinition_agrees_with_check`).
-/
namespace ScreenKeyboard

/-! ## Errors of a check -/

namespace Issue

theorem filter_isError_eq_nil_iff (issues : List Issue) : issues.filter isError = [] ↔ NoError issues := by
  rw [List.filter_eq_nil_iff]
  simp [NoError]

/-- **A check that fails reports all errors that it found**, as it found them, and no warning. -/
theorem settle_eq_error_iff (issues : List Issue) (fault : Fault) :
    settle issues = .error fault ↔ ¬ NoError issues ∧ fault = .invalid (issues.filter isError) none := by
  rw [← filter_isError_eq_nil_iff]
  unfold settle
  split
  · rename_i none_error
    simp [none_error]
  · rename_i some_error
    rw [Except.error.injEq]
    exact ⟨fun h => ⟨some_error, h.symm⟩, fun h => h.2.symm⟩

/-- Warnings play no part in whether and how a check fails. -/
theorem settle_eq_error_congr {a b : List Issue} (same : a.filter isError = b.filter isError) (fault : Fault) :
    settle a = .error fault ↔ settle b = .error fault := by
  rw [settle_eq_error_iff, settle_eq_error_iff, ← filter_isError_eq_nil_iff, ← filter_isError_eq_nil_iff, same]

end Issue

namespace Definition

theorem noError_nameIssues (d : Definition) : Issue.NoError d.nameIssues := by
  unfold nameIssues
  split <;> simp

theorem noError_shiftIssues (d : Definition) : Issue.NoError d.shiftIssues := by
  unfold shiftIssues
  split <;> simp

theorem filter_isError_issues (d : Definition) (accented : List String) :
    d.issues.filter Issue.isError = ((Grid.ofDefinition d).issues accented).filter Issue.isError := by
  have accents : ∀ letters : List String,
      (letters.flatMap (Grid.ofDefinition d).accentIssues).filter Issue.isError = [] := by
    intro letters
    rw [Issue.filter_isError_eq_nil_iff]
    intro issue hi
    obtain ⟨letter, -, hi⟩ := List.mem_flatMap.1 hi
    exact Grid.noError_accentIssues _ letter issue hi
  unfold issues Grid.issues
  simp only [List.filter_append, accents, List.append_nil,
    (Issue.filter_isError_eq_nil_iff _).2 (noError_nameIssues d),
    (Issue.filter_isError_eq_nil_iff _).2 (noError_shiftIssues d), List.nil_append]

theorem check_eq_ok_iff (d : Definition) (checked : Checked) :
    d.check = .ok checked ↔ Issue.settle d.issues = .ok checked.warnings ∧ checked.definition = d := by
  unfold check
  cases Issue.settle d.issues with
  | error fault => simp [Functor.map, Except.map]
  | ok warnings =>
    obtain ⟨definition, warnings'⟩ := checked
    simp [Functor.map, Except.map, and_comm, eq_comm]

theorem check_of_noError {d : Definition} (usable : Issue.NoError d.issues) : d.check = .ok ⟨d, Issue.sort d.issues⟩ :=
  (d.check_eq_ok_iff _).2 ⟨(Issue.settle_eq_ok_iff _ _).2 ⟨usable, rfl⟩, rfl⟩

theorem check_eq_error_iff (d : Definition) (fault : Fault) :
    d.check = .error fault ↔ Issue.settle d.issues = .error fault := by
  unfold check
  cases Issue.settle d.issues with
  | error fault' => simp [Functor.map, Except.map]
  | ok warnings => simp [Functor.map, Except.map]

end Definition

/-! ## Accepted definitions -/

namespace Checked

/-- Whether a definition is accepted with some warnings: from a text, from a file, or from the library. -/
inductive Accepted (checked : Checked) : Prop
  | ofText {text : String} (loaded : Definition.load text = .ok checked)
  | ofFile {files : Files} {path : String} (loaded : Definition.loadFile files path = .ok checked)
  | ofLibrary {name : String} (loaded : Library.load name = .ok checked)

end Checked

namespace Definition

theorem finish_eq_ok_iff {origin : Option String} {d : Definition} {checked : Checked} :
    finish origin d = .ok checked ↔
      ∃ complete, resolve Library.find origin d = .ok complete ∧ complete.check = .ok checked := by
  unfold finish
  cases resolve Library.find origin d with
  | error fault =>
    constructor
    · intro h
      cases h
    · rintro ⟨_, h, -⟩
      cases h
  | ok complete =>
    change complete.check.mapError _ = .ok checked ↔ _
    rw [show (∃ c, Except.ok complete = .ok c ∧ c.check = .ok checked) ↔ complete.check = .ok checked by simp]
    cases complete.check with
    | error fault => exact ⟨fun h => (by cases h), fun h => (by cases h)⟩
    | ok checked' => exact Iff.rfl

theorem load_eq_ok_iff {text : String} {checked : Checked} :
    load text = .ok checked ↔ ∃ d, ofText text = .ok d ∧ finish none d = .ok checked := by
  unfold load
  cases ofText text with
  | error fault => simp [bind, Except.bind]
  | ok d => simp [bind, Except.bind]

theorem check_of_finish {origin : Option String} {d : Definition} {checked : Checked}
    (finished : finish origin d = .ok checked) : checked.definition.check = .ok checked := by
  obtain ⟨complete, -, passed⟩ := finish_eq_ok_iff.1 finished
  rw [((complete.check_eq_ok_iff _).1 passed).2, passed]

theorem check_of_bind_finish {origin : Option String} {read : Except Fault Definition} {checked : Checked}
    (loaded : read >>= finish origin = .ok checked) : checked.definition.check = .ok checked := by
  cases read with
  | error fault => cases loaded
  | ok d => exact check_of_finish loaded

/-- **What is accepted passed its check**, wherever it comes from. -/
theorem check_of_accepted {checked : Checked} (accepted : checked.Accepted) :
    checked.definition.check = .ok checked := by
  cases accepted with
  | ofText loaded => exact check_of_bind_finish loaded
  | ofLibrary loaded => exact check_of_bind_finish loaded
  | ofFile loaded =>
    unfold loadFile at loaded
    split at loaded
    · cases loaded
    · exact check_of_bind_finish loaded

end Definition

/-! ## Keyboards -/

namespace Keyboard

/-- **With the standard symbols only the check of the letters can fail**, and its fault is given the name. -/
theorem make_eq_error_iff (name : String) (c : Customizer) (grid : Grid) (fault : Fault) :
    make name c grid FirstSymbols.make SecondSymbols.make = .error fault ↔
      ∃ unnamed, grid.check c.accentedLetters = .error unnamed ∧ fault = unnamed.within name := by
  obtain ⟨symbols, hs⟩ := FirstSymbols.exists_make c
  obtain ⟨shifted, hs'⟩ := SecondSymbols.exists_make c
  unfold make
  cases grid.check c.accentedLetters with
  | error unnamed => simp [eq_comm]
  | ok warnings => simp [hs, hs', bind, Except.bind, pure, Except.pure]

theorem ofDefinition_eq_error_iff {d : Definition} {locale : Locale} (located : d.locale = some locale)
    (fault : Fault) :
    ofDefinition d FirstSymbols.make SecondSymbols.make = .error fault ↔
      ∃ unnamed, d.check = .error unnamed ∧ fault = unnamed.within d.name := by
  have same := fun unnamed => Issue.settle_eq_error_congr
    (d.filter_isError_issues (Customizer.ofPolicy locale d.policy).accentedLetters) unnamed
  unfold ofDefinition
  simp only [located, make_eq_error_iff, Grid.check, d.check_eq_error_iff, same]

/-- A check of a definition fails with issues, and does not know what they were found in. -/
theorem exists_issues_of_check {d : Definition} {fault : Fault} (failed : d.check = .error fault) :
    ∃ issues, fault = .invalid issues none :=
  ⟨_, ((Issue.settle_eq_error_iff _ _).1 ((d.check_eq_error_iff fault).1 failed)).2⟩

theorem exists_ofDefinition_iff {d : Definition} {locale : Locale} (located : d.locale = some locale) :
    (∃ k, ofDefinition d FirstSymbols.make SecondSymbols.make = .ok k) ↔ ∃ checked, d.check = .ok checked := by
  have fails := ofDefinition_eq_error_iff located
  cases made : ofDefinition d FirstSymbols.make SecondSymbols.make with
  | ok k =>
    cases hd : d.check with
    | ok checked => simp
    | error unnamed =>
      have failed := (fails _).2 ⟨unnamed, hd, rfl⟩
      rw [made] at failed
      cases failed
  | error fault =>
    obtain ⟨unnamed, hd, -⟩ := (fails fault).1 made
    simp [hd]

/-- **Checking a definition and making its keyboard agree**: one succeeds exactly when the other one does, and when they
fail they report the same issues in the same order; the keyboard says in addition what they were found in.  So a
definition that is accepted, from wherever it comes, never fails later, and the pages of symbols never fail at all. -/
theorem ofDefinition_agrees_with_check {d : Definition} {locale : Locale} (located : d.locale = some locale) :
    ((∃ k, ofDefinition d FirstSymbols.make SecondSymbols.make = .ok k) ↔ ∃ checked, d.check = .ok checked) ∧
    (∀ fault, d.check = .error fault → ∃ issues, fault = .invalid issues none ∧
      ofDefinition d FirstSymbols.make SecondSymbols.make = .error (.invalid issues (some d.name))) ∧
    (∀ fault, ofDefinition d FirstSymbols.make SecondSymbols.make = .error fault →
      ∃ issues, fault = .invalid issues (some d.name) ∧ d.check = .error (.invalid issues none)) ∧
    (∀ checked : Checked, checked.Accepted → checked.definition = d →
      ∃ k, ofDefinition d FirstSymbols.make SecondSymbols.make = .ok k) ∧
    ∀ c, (∃ pages, FirstSymbols.make c = .ok pages) ∧ ∃ pages, SecondSymbols.make c = .ok pages := by
  have fails := ofDefinition_eq_error_iff located
  refine ⟨exists_ofDefinition_iff located, ?_, ?_, ?_,
    fun c => ⟨FirstSymbols.exists_make c, SecondSymbols.exists_make c⟩⟩
  · intro fault failed
    obtain ⟨issues, rfl⟩ := exists_issues_of_check failed
    exact ⟨issues, rfl, (fails _).2 ⟨_, failed, rfl⟩⟩
  · intro fault failed
    obtain ⟨unnamed, unchecked, rfl⟩ := (fails fault).1 failed
    obtain ⟨issues, rfl⟩ := exists_issues_of_check unchecked
    exact ⟨issues, rfl, unchecked⟩
  · rintro checked accepted rfl
    exact (exists_ofDefinition_iff located).2 ⟨checked, Definition.check_of_accepted accepted⟩

/-- An empty label and an empty row are reported together, phone rows before tablet rows; accents for a letter that is
not there are no error. -/
theorem ofDefinition_agrees_with_check_of_empty_rows :
    ∃ d : Definition, d.locale.isSome = true ∧ d.name = "gaps" ∧ d.phoneRows = [[.plain "a", .plain ""]] ∧
      d.tabletRows = some [[]] ∧ d.policy.accents.isSome = true ∧
      ∃ issues, issues.map Issue.field = ["phone_rows[0][1]", "tablet_rows[0]"] ∧
        d.check = .error (.invalid issues none) ∧
        ofDefinition d FirstSymbols.make SecondSymbols.make = .error (.invalid issues (some "gaps")) := by
  let d : Definition := { Definition.unset with
    name := "gaps"
    locale := some ⟨"en", none, by decide +kernel, by decide +kernel⟩
    phoneRows := [[.plain "a", .plain ""]]
    tabletRows := some [[]]
    policy := { Policy.unset with accents := some ⟨[("z", ["ž"])], List.pairwise_singleton _ _⟩ } }
  have failed : d.check = .error (.invalid (d.issues.filter Issue.isError) none) :=
    (d.check_eq_error_iff _).2 ((Issue.settle_eq_error_iff _ _).2
      ⟨by rw [← Issue.filter_isError_eq_nil_iff]; decide +kernel, rfl⟩)
  obtain ⟨issues, same, named⟩ := (ofDefinition_agrees_with_check (d := d) rfl).2.1 _ failed
  obtain rfl : d.issues.filter Issue.isError = issues := by cases same; rfl
  exact ⟨d, rfl, rfl, rfl, rfl, rfl, _, by decide +kernel, failed, named⟩

end Keyboard

end ScreenKeyboard
