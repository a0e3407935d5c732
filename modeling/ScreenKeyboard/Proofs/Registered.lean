import ScreenKeyboard.Proofs.CheckedDefinition
import ScreenKeyboard.Proofs.LettersPage
import ScreenKeyboard.Proofs.Resources
import ScreenKeyboard.Proofs.Steps
import ScreenKeyboard.Proofs.WrittenDefinition
import ScreenKeyboard.Registry
/-!
# Registered locales

A locale is registered when its tag is listed, and nothing else is looked at before its keyboard is loaded.  Still
loading cannot fail then: the definition of every listed tag is found, completed and checked without fault, is for the
locale of the tag, and so has a keyboard (`exists_load_iff`).  None of these keyboards is without upper case.

What is loaded comes from a text of the library, in steps that can be told one by one (`Built`, `load_eq_ok_iff_built`).
-/
namespace ScreenKeyboard

theorem Locale.eq_of_tag_eq {l l' : Locale} (same : l.tag = l'.tag) : l = l' := by
  have read := l.parse?_tag
  rw [same, l'.parse?_tag] at read
  exact (Option.some.inj read).symm

theorem Library.load_of_resolve {name : String} {d complete : Definition} (found : find name = .ok d)
    (resolved : Definition.resolve find (some name) d = .ok complete) (usable : Issue.NoError complete.issues) :
    load name = .ok ⟨complete, Issue.sort complete.issues⟩ := by
  have settled := (Issue.settle_eq_ok_iff _ _).2 ⟨usable, rfl⟩
  have passed := (complete.check_eq_ok_iff ⟨complete, _⟩).2 ⟨settled, rfl⟩
  rw [load, found]
  exact Definition.finish_eq_ok_iff.2 ⟨complete, resolved, passed⟩

/-- A definition of the library is loaded from its text: what that says is completed by its ancestors and checked. -/
theorem Library.load_eq_ok_iff {name : String} {checked : Checked} : load name = .ok checked ↔
    ∃ text d complete, texts.lookup (baseName name) = some text ∧ Definition.ofText text = .ok d ∧
      Definition.resolve read (some name) d = .ok complete ∧ complete.check = .ok checked := by
  have same : read = find := funext fun name => (find_eq_read name).symm
  rw [load, bind_eq_ok_iff, same]
  constructor
  · rintro ⟨d, found, finished⟩
    obtain ⟨text, written, decoded⟩ := find_eq_ok_iff.1 found
    obtain ⟨complete, resolved, passed⟩ := Definition.finish_eq_ok_iff.1 finished
    exact ⟨text, d, complete, written, decoded, resolved, passed⟩
  · rintro ⟨text, d, complete, written, decoded, resolved, passed⟩
    exact ⟨d, find_eq_ok_iff.2 ⟨text, written, decoded⟩, Definition.finish_eq_ok_iff.2 ⟨complete, resolved, passed⟩⟩

namespace Registry

/-- **How the keyboard of a locale comes about.**  The locale is registered, the text of its resource is that of a
definition, its ancestors complete it, it is for this locale and passes its check, and the keyboard is made of it. -/
inductive Built (locale : Locale) (k : Keyboard) : Prop
  | intro {entry : Registration} {text : String} {d complete : Definition} {warnings : List Issue}
    (registered : find locale = .ok entry)
    (written : Library.texts.lookup (Library.baseName entry.resource) = some text)
    (decoded : Definition.ofText text = .ok d)
    (resolved : Definition.resolve Library.read (some entry.resource) d = .ok complete)
    (located : complete.locale = some locale) (accepted : complete.check = .ok ⟨complete, warnings⟩)
    (made : Keyboard.ofDefinition complete entry.symbols entry.symbolsShifted = .ok k)

/-- **Loading is all of these steps**, one after the other. -/
theorem load_eq_ok_iff_built {locale : Locale} {k : Keyboard} : load locale = .ok k ↔ Built locale k := by
  simp only [load, bind_eq_ok_iff, Library.load_eq_ok_iff]
  constructor
  · rintro ⟨entry, registered, ⟨checked, warnings⟩, ⟨text, d, complete, written, decoded, resolved, accepted⟩, made⟩
    obtain rfl : checked = complete := ((complete.check_eq_ok_iff _).1 accepted).2
    split at made
    · rename_i located
      exact .intro registered written decoded resolved located accepted made
    · cases made
  · rintro ⟨registered, written, decoded, resolved, located, accepted, made⟩
    refine ⟨_, registered, _, ⟨_, _, _, written, decoded, resolved, accepted⟩, ?_⟩
    rw [if_pos located, made]

theorem Built.locale_eq {locale : Locale} {k : Keyboard} (built : Built locale k) : k.customizer.locale = locale := by
  obtain ⟨-, -, -, -, located, -, made⟩ := built
  obtain ⟨other, there, made⟩ := Keyboard.make_of_ofDefinition made
  rw [located] at there
  cases there
  rw [Keyboard.customizer_of_make made, Customizer.ofPolicy]

theorem find_eq_ok_iff {locale : Locale} {entry : Registration} :
    find locale = .ok entry ↔ locale.tag ∈ tags ∧ entry = .standard locale.tag := by
  have looked : (entries.find? fun entry => entry.tag == locale.tag) =
      (tags.find? fun tag => tag == locale.tag).map .standard := List.find?_map
  unfold find
  rw [looked]
  cases found : tags.find? fun tag => tag == locale.tag with
  | none =>
    have absent : locale.tag ∉ tags := fun listed => by simpa using List.find?_eq_none.1 found _ listed
    simp [absent]
  | some tag =>
    obtain rfl : tag = locale.tag := by simpa using List.find?_some found
    have listed := List.mem_of_find?_eq_some found
    simp [listed, eq_comm]

/-- What the library has for a listed tag: a definition that is found, completed without fault, for the locale of the
tag, with upper case and with letters that can be used. -/
theorem exists_definition {tag : String} (listed : tag ∈ tags) :
    ∃ d complete, Library.find tag = .ok d ∧ Definition.resolve Library.find (some tag) d = .ok complete ∧
      complete.locale.map Locale.tag = some tag ∧ complete.isCaseless = false ∧ Issue.NoError complete.issues := by
  have all : ∀ tag ∈ tags, ∃ d ∈ (Library.find tag).toOption,
      ∃ complete ∈ (Definition.resolve Library.find (some tag) d).toOption,
        complete.locale.map Locale.tag = some tag ∧ complete.isCaseless = false ∧ Issue.NoError complete.issues := by
    decide +kernel
  obtain ⟨d, found, complete, resolved, sound⟩ := all tag listed
  exact ⟨d, complete, toOption_eq_some_iff.1 found, toOption_eq_some_iff.1 resolved, sound⟩

theorem exists_load {locale : Locale} (registered : locale.tag ∈ tags) :
    ∃ d k, d.isCaseless = false ∧ Keyboard.ofDefinition d FirstSymbols.make SecondSymbols.make = .ok k ∧
      load locale = .ok k := by
  obtain ⟨d, complete, found, resolved, tagged, cased, usable⟩ := exists_definition registered
  have loaded := Library.load_of_resolve found resolved usable
  have located : complete.locale = some locale := by
    obtain ⟨other, there, same⟩ := Option.map_eq_some_iff.1 tagged
    rw [there, Locale.eq_of_tag_eq same]
  have passed := Definition.check_of_accepted (.ofLibrary loaded)
  obtain ⟨k, made⟩ := (Keyboard.exists_ofDefinition_iff located).2 ⟨_, passed⟩
  refine ⟨complete, k, cased, made, ?_⟩
  have entry := find_eq_ok_iff.2 ⟨registered, rfl⟩
  simp only [load, entry, Registration.standard, loaded, bind, Except.bind, located, if_true, made]

/-- **A locale has a keyboard exactly if it is registered.** -/
theorem exists_load_iff {locale : Locale} : (∃ k, load locale = .ok k) ↔ locale.tag ∈ tags := by
  constructor
  · rintro ⟨k, loaded⟩
    obtain ⟨entry, found, -⟩ := bind_eq_ok_iff.1 loaded
    exact (find_eq_ok_iff.1 found).1
  · intro registered
    obtain ⟨d, k, -, -, loaded⟩ := exists_load registered
    exact ⟨k, loaded⟩

/-- The keyboard of a locale is that of a definition with upper case. -/
theorem definition_of_load {locale : Locale} {k : Keyboard} (loaded : load locale = .ok k) :
    ∃ d, d.isCaseless = false ∧ Keyboard.ofDefinition d FirstSymbols.make SecondSymbols.make = .ok k := by
  obtain ⟨d, k', cased, made, loaded'⟩ := exists_load (exists_load_iff.1 ⟨k, loaded⟩)
  rw [loaded] at loaded'
  cases loaded'
  exact ⟨d, cased, made⟩

theorem caseless_of_load {locale : Locale} {k : Keyboard} (loaded : load locale = .ok k) : k.grid.caseless = false := by
  obtain ⟨d, cased, made⟩ := definition_of_load loaded
  obtain ⟨locale', -, made⟩ := Keyboard.make_of_ofDefinition made
  rw [Keyboard.grid_of_make made]
  exact cased

end Registry

end ScreenKeyboard
