import ScreenKeyboard.Library.Resource
import ScreenKeyboard.Proofs.Steps
/-!
# Definitions and their texts

Every definition of the library is what its text says (`Library.ofText_texts`), so a name is looked up in the library
with the same outcome as its text is read (`Library.find_eq_read`).
-/
namespace ScreenKeyboard

theorem Json.decodeText_ofList {α : Type} (read : Node → Decoded α) (cs : List Char) :
    decodeText read (String.ofList cs) = (Node.build .value [] (tokens 1 cs)).read read := by
  rw [decodeText, Document.ofText, String.toList_ofList]

theorem Definition.ofText_of_chars {text : String} {cs : List Char} {d : Definition} (written : text = String.ofList cs)
    (decoded : ((Json.Node.build .value [] (Json.tokens 1 cs)).read ofNode).toOption = some d) :
    ofText text = .ok d := by
  rw [ofText, written, Json.decodeText_ofList, toOption_eq_some_iff.1 decoded]
  rfl

namespace Library

-- A text has more characters than Lean takes steps by default.
set_option maxRecDepth 4000 in
/-- **Each text of the library is that of the definition of its name.** -/
theorem ofText_texts :
    texts.map (fun t => (t.1, Definition.ofText t.2)) = entries.map fun e => (e.1, .ok e.2) := by
  have german : Definition.ofText germanText = .ok german := Definition.ofText_of_chars rfl (by decide +kernel)
  have english : Definition.ofText englishText = .ok english := Definition.ofText_of_chars rfl (by decide +kernel)
  have spanish : Definition.ofText spanishText = .ok spanish := Definition.ofText_of_chars rfl (by decide +kernel)
  have french : Definition.ofText frenchText = .ok french := Definition.ofText_of_chars rfl (by decide +kernel)
  have dutch : Definition.ofText dutchText = .ok dutch := Definition.ofText_of_chars rfl (by decide +kernel)
  have qwerty : Definition.ofText qwertyText = .ok qwerty := Definition.ofText_of_chars rfl (by decide +kernel)
  have turkish : Definition.ofText turkishText = .ok turkish := Definition.ofText_of_chars rfl (by decide +kernel)
  simp only [texts, entries, List.map_cons, List.map_nil, german, english, spanish, french, dutch, qwerty, turkish]

theorem map_lookup_texts (base : String) :
    (texts.lookup base).map Definition.ofText = (entries.lookup base).map .ok := by
  rw [← lookup_map_snd, ← lookup_map_snd, ofText_texts]

/-- **To look a definition up is to read its text.** -/
theorem find_eq_read (name : String) : find name = read name := by
  have same := map_lookup_texts (baseName name)
  unfold find read
  cases written : texts.lookup (baseName name) with
  | none =>
    rw [written] at same
    rw [Option.map_eq_none_iff.1 same.symm]
  | some text =>
    rw [written] at same
    obtain ⟨d, there, decoded⟩ := Option.map_eq_some_iff.1 same.symm
    rw [there]
    change .ok d = Definition.ofTextAt _ text
    rw [Definition.ofTextAt, ← decoded]
    rfl

theorem find_eq_ok_iff {name : String} {d : Definition} : find name = .ok d ↔
    ∃ text, texts.lookup (baseName name) = some text ∧ Definition.ofText text = .ok d := by
  rw [find_eq_read]
  unfold read
  cases texts.lookup (baseName name) with
  | none => simp
  | some text => simp [Definition.ofTextAt, mapError_eq_ok_iff]

end Library

end ScreenKeyboard
