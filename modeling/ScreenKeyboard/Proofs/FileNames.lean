import ScreenKeyboard.Proofs.Reload
import ScreenKeyboard.Proofs.Steps
/-!
# Names of files

The name of a file is remembered with the names of the ancestors, though no parent is ever looked up among the files.  So
it matters in one case only: when the definition in the file, or one of its ancestors, has a parent of that name.  Then
the file is refused, as if it were its own ancestor; in all other cases it is loaded as its text is
(`loadFile_eq_iff_not_asked`).  A text that has no name is never refused in this way, for the ancestors in the library
are not their own.
-/
namespace ScreenKeyboard

/-- A parent in the library is looked up under one name, and what is found under it has no parent. -/
theorem Library.parent_of_find {name : String} {d : Definition} (found : find name = .ok d) :
    d.parent = none ∨ d.parent = some "qwerty" ∧ name ≠ "qwerty" := by
  have all : ∀ e ∈ entries, e.2.parent = none ∨ e.2.parent = some "qwerty" ∧ e.1 ≠ "qwerty" := by decide +kernel
  unfold find at found
  split at found
  · rename_i d' looked
    cases found
    rcases all _ (mem_of_lookup_eq_some looked) with root | ⟨child, differs⟩
    · exact .inl root
    · refine .inr ⟨child, ?_⟩
      have base : baseName "qwerty" = "qwerty" := by decide +kernel
      rintro rfl
      exact differs base
  · cases found

namespace Definition

variable {find : String → Except Fault Definition}

/-- Whether a definition or one of its ancestors has a parent of some name. -/
def AsksFor (find : String → Except Fault Definition) (d : Definition) (name : String) : Prop :=
  ∃ steps, Climb find d steps ∧ (top d steps).parent = some name

theorem asksFor_of_mem {d : Definition} {steps : List (String × Definition)} {name : String}
    (climb : Climb find d steps) (h : name ∈ steps.map Prod.fst) : AsksFor find d name := by
  induction climb with
  | here d => cases h
  | up named loaded _ ih =>
    rcases List.mem_cons.1 h with rfl | above
    · exact ⟨[], .here _, named⟩
    · obtain ⟨steps', climb', named'⟩ := ih above
      exact ⟨_, .up named loaded climb', named'⟩

/-- The name of a definition plays no part if it is not asked for, unless a cycle is reported with it. -/
theorem outcome_of_not_asked {d : Definition} {path : String} {result : Except Fault Definition}
    (unasked : ¬ AsksFor find d path) (acyclic : ∀ detail chain, result ≠ .error (.cycle detail chain))
    (h : Outcome find none d result) : Outcome find (some path) d result := by
  have fresh : ∀ {steps}, Climb find d steps → (known none steps).Nodup → (known (some path) steps).Nodup :=
    fun climb new => List.nodup_cons.2 ⟨fun old => unasked (asksFor_of_mem climb old), new⟩
  cases h with
  | complete climb new few root => exact .complete climb (fresh climb new) few root
  | again => exact absurd rfl (acyclic _ _)
  | missing climb new few named unknown failed =>
    refine .missing climb (fresh climb new) few named (fun old => ?_) failed
    rcases List.mem_cons.1 old with rfl | old
    · exact unasked ⟨_, climb, named⟩
    · exact unknown old
  | tooDeep climb new many => exact .tooDeep climb (fresh climb new) many

/-! ## The library -/

/-- In the library there is a grandparent at most, and that has one name. -/
theorem steps_of_library_climb {d : Definition} {steps : List (String × Definition)} {name : String}
    (climb : Climb Library.find d steps) (named : (top d steps).parent = some name) :
    steps = [] ∨ ∃ step, steps = [step] ∧ name = "qwerty" ∧ step.1 ≠ "qwerty" := by
  have child : ∀ {own parent name}, Library.find own = .ok parent → parent.parent = some name →
      name = "qwerty" ∧ own ≠ "qwerty" := by
    intro own parent name found named
    rcases Library.parent_of_find found with root | ⟨child, differs⟩
    · rw [root] at named
      cases named
    · rw [child] at named
      cases named
      exact ⟨rfl, differs⟩
  cases climb with
  | here => exact .inl rfl
  | up _ found rest =>
    cases rest with
    | here => exact .inr ⟨_, rfl, child found named⟩
    | up named' found' rest' =>
      obtain ⟨rfl, -⟩ := child found named'
      -- The grandparent has no parent, so the way up neither goes on nor is there a name to ask for.
      cases rest' with
      | here => exact absurd rfl (child found' named).2
      | up named'' => exact absurd rfl (child found' named'').2

theorem resolve_library_ne_cycle (d : Definition) (detail : String) (chain : List String) :
    resolve Library.find none d ≠ .error (.cycle detail chain) := by
  intro h
  generalize result : (Except.error (.cycle detail chain) : Except Fault Definition) = r at h
  cases resolve_eq_iff.1 h with
  | complete => cases result
  | tooDeep => cases result
  | missing _ _ _ _ _ failed =>
    cases result
    unfold Library.find at failed
    split at failed <;> cases failed
  | again climb _ _ named old =>
    rcases steps_of_library_climb climb named with rfl | ⟨step, rfl, rfl, differs⟩
    · cases old
    · exact differs (List.mem_singleton.1 old).symm

theorem resolve_of_not_asked {d : Definition} {path : String} (unasked : ¬ AsksFor Library.find d path) :
    resolve Library.find (some path) d = resolve Library.find none d :=
  resolve_eq_iff.2 (outcome_of_not_asked unasked (resolve_library_ne_cycle d) (resolve_eq_iff.1 rfl))

theorem resolve_of_asked {d : Definition} {path : String} {steps : List (String × Definition)}
    (climb : Climb Library.find d steps) (named : (top d steps).parent = some path) :
    resolve Library.find (some path) d =
      .error (.cycle ("Circular inheritance detected: layout inherits from '" ++ path ++ "'")
        (path :: steps.map Prod.fst ++ [path])) := by
  rcases steps_of_library_climb climb named with rfl | ⟨step, rfl, rfl, differs⟩
  · have new : (known (some path) []).Nodup := by simp [known]
    exact resolve_eq_iff.2 (.again climb new (Nat.zero_le 5) named List.mem_cons_self)
  · have new : (known (some "qwerty") [step]).Nodup := by simpa [known] using Ne.symm differs
    exact resolve_eq_iff.2 (.again climb new (Nat.le_add_left 1 4) named List.mem_cons_self)

/-! ## Texts and files -/

theorem load_eq (text : String) :
    load text = ofText text >>= fun d => resolve Library.find none d >>= check := by
  unfold load
  cases ofText text with
  | error fault => rfl
  | ok d =>
    change (resolve Library.find none d >>= check).mapError _ = resolve Library.find none d >>= check
    cases resolve Library.find none d >>= check <;> rfl

theorem loadFile_of_read {files : Files} {path text : String} (readable : files.read path = .ok text) :
    loadFile files path =
      (ofText text >>= fun d => resolve Library.find (some path) d >>= check).mapError (Fault.within path) := by
  unfold loadFile ofTextAt
  rw [readable]
  dsimp only
  cases ofText text <;> rfl

/-- A text that stands nowhere is never found to be its own ancestor. -/
theorem load_ne_cycle (text detail : String) (chain : List String) :
    load text ≠ .error (.cycle detail chain) := by
  rw [load_eq]
  intro h
  cases read : ofText text with
  | error fault =>
    rw [read] at h
    cases h
    unfold ofText at read
    cases decoded : Json.decodeText ofNode text with
    | error fault => rw [decoded] at read; cases read
    | ok d => rw [decoded] at read; cases read
  | ok d =>
    rw [read] at h
    change resolve Library.find none d >>= check = _ at h
    cases resolved : resolve Library.find none d with
    | error fault =>
      rw [resolved] at h
      cases h
      exact resolve_library_ne_cycle d detail chain resolved
    | ok complete =>
      rw [resolved] at h
      simp only [bind, Except.bind] at h
      obtain ⟨issues, same⟩ := Keyboard.exists_issues_of_check h
      cases same

theorem within_eq_cycle {path detail : String} {chain : List String} {fault : Fault}
    (h : fault.within path = .cycle detail chain) : fault = .cycle detail chain := by
  unfold Fault.within at h
  split at h
  · cases h
  · cases h
  · exact h

theorem loadFile_of_asked {files : Files} {path text : String} {d : Definition} {steps : List (String × Definition)}
    (readable : files.read path = .ok text) (read : ofText text = .ok d) (climb : Climb Library.find d steps)
    (named : (top d steps).parent = some path) :
    loadFile files path =
      .error (.cycle ("Circular inheritance detected: layout inherits from '" ++ path ++ "'")
        (path :: steps.map Prod.fst ++ [path])) := by
  rw [loadFile_of_read readable, read]
  change (resolve Library.find (some path) d >>= check).mapError _ = _
  rw [resolve_of_asked climb named]
  rfl

theorem loadFile_of_not_asked {files : Files} {path text : String} (readable : files.read path = .ok text)
    (unasked : ∀ d, ofText text = .ok d → ¬ AsksFor Library.find d path) :
    loadFile files path = (load text).mapError (Fault.within path) := by
  rw [loadFile_of_read readable, load_eq]
  cases read : ofText text with
  | error fault => rfl
  | ok d =>
    change (resolve Library.find (some path) d >>= check).mapError _ = _
    rw [resolve_of_not_asked (unasked d read)]
    rfl

/-- **A file is loaded as its text is, unless its name is asked for.**  The same definition comes out with the same
warnings, or the same fault, which names the file.  But if the definition in the file, or one of its ancestors, has a
parent of the name of the file, the file is refused as its own ancestor; a text is never refused so. -/
theorem loadFile_eq_iff_not_asked {files : Files} {path text : String} (readable : files.read path = .ok text) :
    (∀ detail chain, load text ≠ .error (.cycle detail chain)) ∧
    (loadFile files path = (load text).mapError (Fault.within path) ↔
      ¬ ∃ d, ofText text = .ok d ∧ AsksFor Library.find d path) ∧
    ∀ d steps, ofText text = .ok d → Climb Library.find d steps → (top d steps).parent = some path →
      loadFile files path =
        .error (.cycle ("Circular inheritance detected: layout inherits from '" ++ path ++ "'")
          (path :: steps.map Prod.fst ++ [path])) := by
  refine ⟨load_ne_cycle text, ⟨?_, ?_⟩, fun d steps => loadFile_of_asked readable⟩
  · rintro same ⟨d, read, steps, climb, named⟩
    rw [loadFile_of_asked readable read climb named] at same
    cases loaded : load text with
    | ok checked => rw [loaded] at same; cases same
    | error fault =>
      rw [loaded] at same
      have cyclic := within_eq_cycle (Except.error.inj same).symm
      exact load_ne_cycle text _ _ (cyclic ▸ loaded)
  · exact fun unasked => loadFile_of_not_asked readable fun d read asked => unasked ⟨d, read, asked⟩

theorem read_of_only_file (text : String) :
    (Files.mk [(["qwerty"], .file text.toUTF8)]).read "qwerty" = .ok text := by
  have valid : String.fromUTF8? text.toUTF8 = some text := dif_pos text.isValidUTF8
  have plain : ("qwerty".toList.any fun c => c.toNat == 0) = false := by decide
  have located : (Files.mk [(["qwerty"], .file text.toUTF8)]).locate "qwerty" = .ok (.inside ["qwerty"]) := rfl
  have lies : (Files.mk [(["qwerty"], .file text.toUTF8)]).find? ["qwerty"] = some (.file text.toUTF8) := rfl
  simp only [Files.read, plain, located, lies, valid, Bool.false_eq_true, if_false]

/-- A file that is called as its parent is refused, though its text is not. -/
theorem loadFile_eq_iff_not_asked_of_qwerty :
    ∃ (files : Files) (text : String) (checked : Checked), files.read "qwerty" = .ok text ∧
      text = "\x7b\"name\":\"s\",\"inherits\":\"qwerty\",\"customizer\":\x7b\x7d\x7d" ∧
      load text = .ok checked ∧
      loadFile files "qwerty" =
        .error (.cycle "Circular inheritance detected: layout inherits from 'qwerty'" ["qwerty", "qwerty"]) ∧
      loadFile files "qwerty" ≠ (load text).mapError (Fault.within "qwerty") := by
  let d : Definition := { unset with name := "s", parent := some "qwerty" }
  obtain ⟨text, written⟩ : ∃ text, text = d.toJson.compact := ⟨_, rfl⟩
  have read : ofText text = .ok d := by rw [written, ofText_compact]
  have climb : Climb Library.find d [("qwerty", Library.qwerty)] := .up rfl rfl (.here _)
  have usable : Issue.NoError (merged d [Library.qwerty]).issues := by decide +kernel
  have loaded := load_of_climb read climb (by decide) (by decide) rfl usable
  have asked : AsksFor Library.find d "qwerty" := ⟨[], .here d, rfl⟩
  obtain ⟨-, agrees, refused⟩ := loadFile_eq_iff_not_asked (read_of_only_file text)
  refine ⟨_, text, _, read_of_only_file text, ?_, loaded, refused d [] read (.here d) rfl, ?_⟩
  · rw [written]
    decide +kernel
  · exact fun same => agrees.1 same ⟨d, read, asked⟩

end Definition

end ScreenKeyboard
