import ScreenKeyboard.Key.Casing
import ScreenKeyboard.Proofs.Steps
/-!
# Upper case of labels

A label and what it emits are put into upper case apart: the label character by character, the output as a code or as a
text.  They stay together, so that a key made from a label becomes the key made from the label in upper case
(`Key.upper_label`).  This needs two things of the table.  No character is without an upper case, so a text of several
characters does not shrink to one, which would be a code.  And controls stand for themselves, as the output leaves their
codes alone.
-/
namespace ScreenKeyboard

/-! ## Characters -/

theorem Text.upperCodes_ne_nil (code : Nat) : upperCodes code ≠ [] := by
  have expanded : ∀ entry ∈ upperExpansions, entry.2 ≠ [] := by decide +kernel
  unfold upperCodes
  split
  · rename_i codes found
    exact expanded (code, codes) (mem_of_lookup_eq_some found)
  · exact List.cons_ne_nil _ _

theorem Text.upperChars_ne_nil (c : Char) : upperChars c ≠ [] :=
  mt List.map_eq_nil_iff.1 (upperCodes_ne_nil c.toNat)

theorem Text.upperChars_of_lt_space {c : Char} (low : c.toNat < 32) : upperChars c = [c] := by
  have fixed : ∀ code < 32, upperCodes code = [code] := by decide +kernel
  rw [upperChars, fixed _ low, List.map_singleton, Char.ofNat_toNat]

namespace Locale

theorem upperChars_ne_nil (l : Locale) (c : Char) : l.upperChars c ≠ [] := by
  unfold upperChars
  split
  · exact List.cons_ne_nil _ _
  · exact Text.upperChars_ne_nil c

theorem upperChars_of_fixed (l : Locale) {c : Char} (hi : c ≠ 'i') (h : Text.upperChars c = [c]) :
    l.upperChars c = [c] := by
  unfold upperChars
  rw [if_neg, h]
  simpa using fun _ => hi

theorem upperChars_of_lt_space (l : Locale) {c : Char} (low : c.toNat < 32) : l.upperChars c = [c] := by
  refine l.upperChars_of_fixed ?_ (Text.upperChars_of_lt_space low)
  rintro rfl
  exact absurd low (by decide)

/-! ## Texts -/

theorem upperText_eq_empty_iff (l : Locale) (text : String) : l.upperText text = "" ↔ text = "" := by
  unfold upperText
  rw [String.ofList_eq_empty_iff, List.flatMap_eq_nil_iff, ← String.toList_eq_nil_iff]
  constructor
  · intro none
    exact List.eq_nil_iff_forall_not_mem.2 fun c hc => l.upperChars_ne_nil c (none c hc)
  · intro empty c hc
    rw [empty] at hc
    cases hc

theorem upperText_of_fixed (l : Locale) {text : String} (h : ∀ c ∈ text.toList, l.upperChars c = [c]) :
    l.upperText text = text := by
  unfold upperText
  rw [List.flatMap_def, List.map_congr_left h, ← List.flatMap_def, List.flatMap_singleton', String.ofList_toList]

theorem length_le_length_flatMap_upperChars (l : Locale) : ∀ cs : List Char,
    cs.length ≤ (cs.flatMap l.upperChars).length
  | [] => Nat.le_refl 0
  | c :: cs => by
    have one := List.length_pos_iff.2 (l.upperChars_ne_nil c)
    have rest := length_le_length_flatMap_upperChars l cs
    rw [List.flatMap_cons, List.length_append, List.length_cons]
    omega

end Locale

/-! ## Outputs -/

theorem Output.ofLabel_of_length_ne_one {text : String} (h : text.toList.length ≠ 1) : ofLabel text = .text text := by
  unfold ofLabel
  split
  · rename_i c single
    rw [single] at h
    exact absurd rfl h
  · rfl

/-- A character that is emitted becomes what its upper case as a label emits. -/
theorem Code.upper_ofChar (l : Locale) (c : Char) :
    (ofChar c).upper l = .ofLabel (String.ofList (l.upperChars c)) := by
  unfold upper
  rw [char?_ofChar]
  by_cases letter : (ofChar c).isLetter = true
  · rw [if_pos letter]
  · have low : c.toNat < 32 := by
      have below : ¬ (32 : Int) ≤ c.toNat := of_decide_eq_false (Bool.eq_false_iff.2 letter)
      omega
    rw [if_neg letter, l.upperChars_of_lt_space low, Output.ofLabel, String.toList_ofList]

/-- **The output of a label in upper case is the output of the label, in upper case.** -/
theorem Output.upper_ofLabel (l : Locale) (text : String) : (ofLabel text).upper l = ofLabel (l.upperText text) := by
  by_cases single : text.toList.length = 1
  · obtain ⟨c, hc⟩ := List.length_eq_one_iff.1 single
    have own : ofLabel text = .code (.ofChar c) := by rw [ofLabel, hc]
    rw [own, Locale.upperText, hc, List.flatMap_singleton]
    exact Code.upper_ofChar l c
  · have several : (l.upperText text).toList.length ≠ 1 := by
      have longer := l.length_le_length_flatMap_upperChars text.toList
      rw [Locale.upperText, String.toList_ofList]
      -- A text of no character stays so, and one of several has no fewer of them.
      cases chars : text.toList with
      | nil => simp
      | cons c cs =>
        rw [chars] at longer single
        rw [List.length_cons] at longer single
        omega
    rw [ofLabel_of_length_ne_one single, ofLabel_of_length_ne_one several]
    rfl

/-- **A key made from a label becomes the key made from the label in upper case.** -/
theorem Key.upper_label (l : Locale) (text : String) : (label text).upper l = label (l.upperText text) := by
  unfold label
  rw [upper_mk, Output.upper_ofLabel, List.map_nil]
  rfl

end ScreenKeyboard
