import ScreenKeyboard.Proofs.Ancestors
import ScreenKeyboard.Proofs.CheckedDefinition
import ScreenKeyboard.Proofs.WrittenDefinition
/-!
# Loading twice

What is loaded from a text names no parent any more.  So when it is written and loaded again there is nothing to complete
it by, its check finds what it found before, and the same definition comes out with the same warnings
(`load_compact_of_load`).
-/
namespace ScreenKeyboard.Definition

theorem resolve_of_root {find : String → Except Fault Definition} {d : Definition} (root : d.parent = none) :
    resolve find none d = .ok d :=
  resolve_eq_iff.2 (.complete (.here d) List.nodup_nil (Nat.zero_le 5) root)

/-- **What is finished is complete**, and finishing it once more changes nothing. -/
theorem finish_of_finish {origin : Option String} {d : Definition} {checked : Checked}
    (finished : finish origin d = .ok checked) :
    checked.definition.parent = none ∧ finish none checked.definition = .ok checked := by
  obtain ⟨complete, resolved, passed⟩ := finish_eq_ok_iff.1 finished
  obtain ⟨steps, -, -, -, root, rfl⟩ := exists_climb_of_resolve resolved
  have complete := parent_merged d steps root
  rw [← ((check_eq_ok_iff _ _).1 passed).2] at complete
  exact ⟨complete, finish_eq_ok_iff.2 ⟨_, resolve_of_root complete, check_of_finish finished⟩⟩

/-- A text whose definition has a root among its first few ancestors in the library is loaded, unless the letters that
they make together cannot be used. -/
theorem load_of_climb {text : String} {d : Definition} {steps : List (String × Definition)} (read : ofText text = .ok d)
    (climb : Climb Library.find d steps) (new : (steps.map Prod.fst).Nodup) (few : steps.length ≤ 5)
    (root : (top d steps).parent = none) (usable : Issue.NoError (merged d (steps.map Prod.snd)).issues) :
    load text = .ok ⟨merged d (steps.map Prod.snd), Issue.sort (merged d (steps.map Prod.snd)).issues⟩ := by
  have resolved : resolve Library.find none d = .ok _ := resolve_eq_iff.2 (.complete climb new few root)
  exact load_eq_ok_iff.2 ⟨d, read, finish_eq_ok_iff.2 ⟨_, resolved, check_of_noError usable⟩⟩

/-- A definition without a parent of which nothing is wrong is loaded from its own text. -/
theorem load_compact_of_sound {d : Definition} (root : d.parent = none) (sound : d.issues = []) :
    load d.toJson.compact = .ok ⟨d, []⟩ := by
  have usable : Issue.NoError d.issues := by
    rw [sound]
    exact Issue.noError_nil
  have sorted : Issue.sort d.issues = [] := by
    rw [sound]
    exact List.mergeSort_nil
  rw [← sorted]
  exact load_of_climb (ofText_compact d) (.here d) List.nodup_nil (Nat.zero_le 5) root usable

/-- **Loading, writing and loading again is the same as loading once**: the definition names no parent, its text is loaded
without fault, and it comes back as it was, with the same warnings in the same order, and makes the same pages. -/
theorem load_compact_of_load {text : String} {checked : Checked} (loaded : load text = .ok checked) :
    checked.definition.parent = none ∧
    ∃ again, load checked.definition.toJson.compact = .ok again ∧ again.definition = checked.definition ∧
      again.warnings = checked.warnings ∧
      ∀ symbols symbolsShifted form element,
        (Keyboard.ofDefinition again.definition symbols symbolsShifted).map (·.page? form element) =
          (Keyboard.ofDefinition checked.definition symbols symbolsShifted).map (·.page? form element) := by
  obtain ⟨d, -, finished⟩ := load_eq_ok_iff.1 loaded
  obtain ⟨root, finishedAgain⟩ := finish_of_finish finished
  exact ⟨root, checked, load_eq_ok_iff.2 ⟨_, ofText_compact _, finishedAgain⟩, rfl, rfl, fun _ _ _ _ => rfl⟩

/-- A child of a child of the letters of English keyboards, with a blank name, rows for tablets, a key that offers
nothing, a line break that is a label and accents for a letter that it has not got. -/
theorem load_compact_of_load_of_grandchild :
    ∃ text checked, load text = .ok checked ∧ checked.definition.phoneRows.length = 3 ∧ checked.warnings.length = 2 ∧
      checked.definition.parent = none ∧ ∃ again, load checked.definition.toJson.compact = .ok again ∧
        again.definition = checked.definition ∧ again.warnings = checked.warnings := by
  let d : Definition := { unset with
    name := " "
    parent := some "en_US"
    tabletRows := some [[.plain "a", .offering "b" []], [.offering "\n" ["\"", "ß"]], [.plain "e"]]
    caseless := some true
    policy := { Policy.unset with accents := some ⟨[("ž", ["z"])], List.pairwise_singleton _ _⟩ } }
  have climb : Climb Library.find d [("en_US", Library.english), ("qwerty", Library.qwerty)] :=
    .up rfl rfl (.up rfl rfl (.here _))
  have loaded := load_of_climb (ofText_compact d) climb (by decide +kernel) (by decide) rfl (by decide +kernel)
  have warned : (Issue.sort (merged d [Library.english, Library.qwerty]).issues).length = 2 := by
    rw [(Issue.perm_sort _).length_eq]
    decide +kernel
  obtain ⟨root, again, reloaded, same, sameWarnings, -⟩ := load_compact_of_load loaded
  exact ⟨_, _, loaded, rfl, warned, root, again, reloaded, same, sameWarnings⟩

end ScreenKeyboard.Definition
