import ScreenKeyboard.Decimal.Binary64
/-!
# Shortest decimals

A binary magnitude stands for every decimal that rounds to it.  `shortest` picks the one to write:
of the decimals with the fewest significant digits the nearest, and of two that are equally near the
one with the even last digit.  Only the two neighbours of the magnitude on each decimal grid have to
be looked at, for if a point of the grid lies in the interval, so does one of them.

`layout` writes the digits out: in full while the point stands within the first sixteen digits or
at most five places before them, and otherwise with an exponent, which always has a sign.
-/
namespace ScreenKeyboard.Decimal

/-- A decimal: the digits of `digits`, times ten to the power of `exponent`. -/
structure Scientific where
  digits : Nat
  exponent : Int
deriving DecidableEq

def timesPowTen (n : Nat) (exponent : Int) : Nat × Nat :=
  if 0 ≤ exponent then (n * Nat.pow 10 exponent.toNat, 1) else (n, Nat.pow 10 exponent.natAbs)

/-- The magnitudes that round to `units`: the bounds of the interval in quarter units, and whether
they belong to it. -/
def interval (units : Nat) : Nat × Nat × Bool :=
  let gap := Binary64.gap units
  let below := if gap > 1 ∧ units = Nat.pow 2 units.log2 then gap else 2 * gap
  (4 * units - below, 4 * units + 2 * gap, (units / gap) % 2 == 0)

def roundsTo (units : Nat) (d : Scientific) : Bool :=
  let (low, high, closed) := interval units
  let (num, den) := timesPowTen d.digits d.exponent
  let value := 4 * Binary64.one * num
  if closed then low * den ≤ value && value ≤ high * den
  else low * den < value && value < high * den

def leadingExponent (units : Nat) : Int :=
  if Binary64.one ≤ units then
    Int.ofNat (Nat.toDigits 10 (units / Binary64.one)).length - 1
  else
    let places := (Nat.toDigits 10 Binary64.one).length - (Nat.toDigits 10 units).length
    if Binary64.one ≤ units * Nat.pow 10 places then -Int.ofNat places else -Int.ofNat places - 1

/-- The two neighbours of a magnitude on the grid of a power of ten, the nearer one first. -/
def neighbours (units : Nat) (exponent : Int) : List Scientific :=
  let (den, num) := timesPowTen 1 exponent
  let near := Binary64.divNearestEven (units * num) (Binary64.one * den)
  let far := if near * (Binary64.one * den) ≤ units * num then near + 1 else near - 1
  [⟨near, exponent⟩, ⟨far, exponent⟩]

def shortest (units : Nat) : Scientific :=
  let leading := leadingExponent units
  let grids := (List.range 17).map fun more => leading - Int.ofNat more
  ((grids.flatMap (neighbours units)).find? (roundsTo units)).getD ⟨units, 0⟩

def trimZeros (digits : List Char) (exponent : Int) : List Char × Int :=
  let zeros := (digits.reverse.takeWhile (· == '0')).length
  (digits.take (digits.length - zeros), exponent + Int.ofNat zeros)

def signed (exponent : Int) : List Char :=
  (if 0 ≤ exponent then ['+'] else ['-']) ++ Nat.toDigits 10 exponent.natAbs

/-- Digits written out, where the last one stands at the place `exponent`. -/
def layout (digits : List Char) (exponent : Int) : List Char :=
  let count := Int.ofNat digits.length
  let point := count + exponent
  if 0 ≤ exponent ∧ point ≤ 16 then
    digits ++ List.replicate exponent.toNat '0' ++ ['.', '0']
  else if 0 < point ∧ point ≤ 16 then
    digits.take point.toNat ++ '.' :: digits.drop point.toNat
  else if -5 < point ∧ point ≤ 0 then
    ['0', '.'] ++ List.replicate point.natAbs '0' ++ digits
  else
    digits.take 1 ++ (if digits.length = 1 then [] else '.' :: digits.drop 1)
      ++ 'e' :: signed (point - 1)

def text (negative : Bool) (units : Nat) : String :=
  let (digits, exponent) :=
    if units = 0 then (['0'], 0)
    else
      let d := shortest units
      trimZeros (Nat.toDigits 10 d.digits) d.exponent
  String.ofList ((if negative then ['-'] else []) ++ layout digits exponent)

end ScreenKeyboard.Decimal
