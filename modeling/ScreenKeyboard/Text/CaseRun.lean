/-!
# Runs of letter pairs

A case table pairs each letter of one case with a letter of the other.  Neighbouring letters are
nearly always paired with neighbouring letters, in one of two ways: a whole alphabet lies at a
fixed distance from the other one (`a` to `z`), or the two cases take turns (`ā` after `Ā`).  A
`CaseRun` holds one such stretch, so a table of a few hundred runs says what a table of some
fourteen hundred pairs would say.  `CaseRun.image?_eq_some_iff` is the reading of a run.
-/
namespace ScreenKeyboard.Text

/-- The code points `first`, `first + stride`, … up to `last`, paired in order with the code
points from `target` on, at the same distances. -/
structure CaseRun where
  first : Nat
  last : Nat
  stride : Nat
  target : Nat

def CaseRun.image? (run : CaseRun) (code : Nat) : Option Nat :=
  if run.first ≤ code ∧ code ≤ run.last ∧ (code - run.first) % run.stride = 0 then
    some (run.target + (code - run.first))
  else
    none

theorem CaseRun.image?_eq_some_iff (run : CaseRun) (code partner : Nat) :
    run.image? code = some partner ↔
      (run.first ≤ code ∧ code ≤ run.last ∧ (code - run.first) % run.stride = 0) ∧
        partner = run.target + (code - run.first) := by
  unfold CaseRun.image?
  split <;> simp_all [eq_comm]

/-- The partner of a code point in a table; a code point that no run has stands for itself. -/
def CaseRun.lookup (table : List CaseRun) (code : Nat) : Nat :=
  (table.findSome? (·.image? code)).getD code

def inRanges (ranges : List (Nat × Nat)) (code : Nat) : Bool :=
  ranges.any fun range => range.1 ≤ code && code ≤ range.2

theorem inRanges_iff (ranges : List (Nat × Nat)) (code : Nat) :
    inRanges ranges code = true ↔ ∃ range ∈ ranges, range.1 ≤ code ∧ code ≤ range.2 := by
  simp [inRanges]

end ScreenKeyboard.Text
