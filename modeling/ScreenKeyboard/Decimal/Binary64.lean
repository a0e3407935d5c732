/-!
# Binary magnitudes of double width

A double-width magnitude has 53 significant bits, and each one is a whole multiple of the smallest,
which is 2⁻¹⁰⁷⁴.  So it is held as a natural number of those units, and rounding is rounding of a
fraction of naturals to 53 significant bits, with a tie going to the even neighbour.  Magnitudes
from 2¹⁰²⁴ on do not exist.
-/
namespace ScreenKeyboard.Binary64

def one : Nat := Nat.pow 2 1074

def limit : Nat := Nat.pow 2 (1024 + 1074)

/-- The quotient of two naturals, rounded to the nearest natural; a tie goes to the even one. -/
def divNearestEven (num den : Nat) : Nat :=
  let quotient := num / den
  match compare (2 * (num % den)) den with
  | .lt => quotient
  | .eq => quotient + quotient % 2
  | .gt => quotient + 1

theorem divNearestEven_of_dvd {num den : Nat} (pos : 0 < den) (h : den ∣ num) :
    divNearestEven num den = num / den := by
  rw [divNearestEven, Nat.mod_eq_zero_of_dvd h, Nat.mul_zero, Nat.compare_eq_lt.2 pos]

/-- How far the neighbours of a magnitude are apart: one unit as long as all bits fit, and twice as
much with every bit more. -/
def gap (units : Nat) : Nat := Nat.pow 2 (units.log2 - 52)

def round (num den : Nat) : Nat :=
  divNearestEven num (den * gap (num / den)) * gap (num / den)

def ofNat (n : Nat) : Nat := round (n * one) 1

def mul (a b : Nat) : Nat := round (a * b) one

def div (a b : Nat) : Nat := round (a * one) b

example : divNearestEven 5 2 = 2 := by decide
example : divNearestEven 7 2 = 4 := by decide
example : ofNat (2 ^ 53 + 1) = 2 ^ 53 * one := by decide +kernel
example : mul (ofNat 3) (ofNat 5) = ofNat 15 := by decide +kernel
example : div (ofNat 1) (ofNat 4) = 2 ^ 1072 := by decide +kernel

end ScreenKeyboard.Binary64
