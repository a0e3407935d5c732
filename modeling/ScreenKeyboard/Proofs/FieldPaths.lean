import ScreenKeyboard.Grid.Check
/-!
# Paths of fields

The path of something in a grid is the name of the field with an index behind it for each step inwards: the row, and
the key in the row (`Grid.placePath`).  As an index is written without brackets, two places of a field have different
paths (`Grid.placePath_inj`).
-/
namespace ScreenKeyboard.Grid

theorem prefix_itemPath (field : String) (index : Nat) : field.toList <+: (itemPath field index).toList := by
  unfold itemPath
  rw [String.append_assoc, String.append_assoc, String.toList_append]
  exact List.prefix_append _ _

/-- The path of a place in a field, by the indices that lead there. -/
def placePath (field : String) (place : List Nat) : String := place.foldl itemPath field

theorem prefix_placePath : ∀ (place : List Nat) (field : String), field.toList <+: (placePath field place).toList
  | [], _ => List.prefix_rfl
  | index :: place, field => (prefix_itemPath field index).trans (prefix_placePath place (itemPath field index))

theorem toList_itemPath (field : String) (index : Nat) :
    (itemPath field index).toList = field.toList ++ '[' :: (Nat.toDigits 10 index ++ [']']) := by
  have opening : "[".toList = ['['] := rfl
  have closing : "]".toList = [']'] := rfl
  have digits : (toString index).toList = Nat.toDigits 10 index := Nat.toList_repr
  unfold itemPath
  simp only [String.toList_append, opening, closing, digits, List.append_assoc, List.cons_append, List.nil_append]

/-- What the indices of a place add to the name of a field. -/
def steps (place : List Nat) : List Char := place.flatMap fun index => '[' :: (Nat.toDigits 10 index ++ [']'])

theorem toList_placePath : ∀ (place : List Nat) (field : String),
    (placePath field place).toList = field.toList ++ steps place
  | [], field => (List.append_nil field.toList).symm
  | index :: place, field => by
    have inner : placePath field (index :: place) = placePath (itemPath field index) place := rfl
    rw [inner, toList_placePath place, toList_itemPath, List.append_assoc]
    rfl

theorem toDigits_inj {i j : Nat} (h : Nat.toDigits 10 i = Nat.toDigits 10 j) : i = j := by
  have value := congrArg (Nat.ofDigitChars 10 · 0) h
  rwa [Nat.ofDigitChars_ten_toDigits, Nat.ofDigitChars_ten_toDigits] at value

theorem bracket_not_mem_toDigits (index : Nat) : ']' ∉ Nat.toDigits 10 index := by
  intro member
  have digit := Nat.isDigit_of_mem_toDigits (by decide) (by decide) member
  exact absurd digit (by decide)

theorem append_bracket_inj : ∀ {a b r s : List Char}, ']' ∉ a → ']' ∉ b → a ++ ']' :: r = b ++ ']' :: s →
    a = b ∧ r = s
  | [], [], _, _, _, _, h => ⟨rfl, (List.cons.inj h).2⟩
  | [], _ :: _, _, _, _, hb, h => absurd ((List.cons.inj h).1 ▸ List.mem_cons_self) hb
  | _ :: _, [], _, _, ha, _, h => absurd ((List.cons.inj h).1 ▸ List.mem_cons_self) ha
  | c :: a, d :: b, _, _, ha, hb, h => by
    obtain ⟨rfl, rest⟩ := List.cons.inj h
    obtain ⟨rfl, same⟩ := append_bracket_inj (mt (List.mem_cons_of_mem c) ha) (mt (List.mem_cons_of_mem c) hb) rest
    exact ⟨rfl, same⟩

theorem steps_inj : ∀ {p q : List Nat}, steps p = steps q → p = q
  | [], [], _ => rfl
  | [], _ :: _, h => nomatch h
  | _ :: _, [], h => nomatch h
  | i :: p, j :: q, h => by
    -- The digits of the first index end at the first closing bracket.
    simp only [steps, List.flatMap_cons, List.cons_append, List.append_assoc, List.nil_append, List.cons.injEq,
      true_and] at h
    obtain ⟨first, rest⟩ := append_bracket_inj (bracket_not_mem_toDigits i) (bracket_not_mem_toDigits j) h
    rw [toDigits_inj first, steps_inj rest]

/-- **Different places of a field have different paths.** -/
theorem placePath_inj {field : String} {p q : List Nat} (h : placePath field p = placePath field q) : p = q := by
  apply steps_inj
  rw [← String.toList_inj, toList_placePath, toList_placePath] at h
  exact List.append_cancel_left h

end ScreenKeyboard.Grid
