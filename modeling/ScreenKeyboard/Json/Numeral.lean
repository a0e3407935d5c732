import ScreenKeyboard.Decimal.Shortest
import ScreenKeyboard.Json.Fault
/-!
# Numbers in a JSON text

A number is an optional sign, whole digits without leading zeros, and then perhaps a fraction and an
exponent.  A number without the last two is held exactly while it fits 64 bits with its sign.  Any
other is held as a binary magnitude: the digits are gathered as long as they fit 64 bits, rounded,
and multiplied or divided by a rounded power of ten.  This rounds up to three times, so the result
can be next to the nearest magnitude.  What is kept of it is its shortest text.
-/
namespace ScreenKeyboard.Json

def lineAfter (line : Nat) (c : Char) : Nat := if c = '\n' then line + 1 else line

/-! ## Values -/

def maxWord : Nat := Nat.pow 2 64 - 1

def digitValue (c : Char) : Nat := c.toNat - '0'.toNat

/-- Gathers digits behind a number while the result fits 64 bits, and counts them. -/
def gather (value : Nat) : List Char → Nat × Nat
  | [] => (value, 0)
  | d :: ds =>
    if value * 10 + digitValue d ≤ maxWord then
      let (result, count) := gather (value * 10 + digitValue d) ds
      (result, count + 1)
    else (value, 0)

/-- Divides a magnitude by a power of ten, 308 places at a time. -/
def divPowTen (units places : Nat) : Nat :=
  if places ≤ 308 then Binary64.div units (Binary64.ofNat (Nat.pow 10 places))
  else if units = 0 then 0
  else divPowTen (Binary64.div units (Binary64.ofNat (Nat.pow 10 308))) (places - 308)
termination_by places

def scale? (value : Nat) (exponent : Int) : Option Nat :=
  if value = 0 then some 0
  else if exponent < 0 then some (divPowTen (Binary64.ofNat value) exponent.natAbs)
  else if 308 < exponent then none
  else
    let units := Binary64.mul (Binary64.ofNat value) (Binary64.ofNat (Nat.pow 10 exponent.toNat))
    if units < Binary64.limit then some units else none

/-! ## Reading -/

def decimal (line : Nat) (negative : Bool) (value : Nat) (exponent : Int) : Except Fault Scalar :=
  match scale? value exponent with
  | some units => .ok (.decimal (Decimal.text negative units))
  | none => .error ⟨.numberTooLarge, some line⟩

def whole (negative : Bool) (value : Nat) : Scalar :=
  if !negative then .int (Int.ofNat value)
  else if 0 < value ∧ value ≤ Nat.pow 2 63 then .int (-Int.ofNat value)
  else .decimal (Decimal.text true (Binary64.ofNat value))

def readExponentDigits (line : Nat) (negative : Bool) (value : Nat) (exponent : Int)
    (down : Bool) : List Char → Except Fault Scalar × List Char
  | [] => (.error ⟨.endsIn .value, some line⟩, [])
  | c :: cs =>
    if c.isDigit then
      let size := (c :: cs.takeWhile Char.isDigit).foldl (fun n d => n * 10 + digitValue d) 0
      (decimal line negative value (if down then exponent - size else exponent + size),
        cs.dropWhile Char.isDigit)
    else (.error ⟨.badNumber, some (lineAfter line c)⟩, cs)

def readExponent (line : Nat) (negative : Bool) (value : Nat) (exponent : Int) :
    List Char → Except Fault Scalar × List Char
  | '+' :: cs => readExponentDigits line negative value exponent false cs
  | '-' :: cs => readExponentDigits line negative value exponent true cs
  | cs => readExponentDigits line negative value exponent false cs

def readScale (line : Nat) (negative : Bool) (value : Nat) (exponent : Int) :
    List Char → Except Fault Scalar × List Char
  | 'e' :: cs => readExponent line negative value exponent cs
  | 'E' :: cs => readExponent line negative value exponent cs
  | cs => (decimal line negative value exponent, cs)

/-- Reads a fraction, behind its point.  Digits that no longer fit are dropped. -/
def readFraction (line : Nat) (negative : Bool) (value : Nat) (exponent : Int) :
    List Char → Except Fault Scalar × List Char
  | [] => (.error ⟨.endsIn .value, some line⟩, [])
  | c :: cs =>
    if c.isDigit then
      let (result, count) := gather value (c :: cs.takeWhile Char.isDigit)
      readScale line negative result (exponent - count) (cs.dropWhile Char.isDigit)
    else (.error ⟨.badNumber, some (lineAfter line c)⟩, cs)

/-- Reads what comes after the whole digits.  Whole digits that no longer fit count as places. -/
def readRest (line : Nat) (negative : Bool) (value places : Nat) :
    List Char → Except Fault Scalar × List Char
  | '.' :: cs => readFraction line negative value places cs
  | 'e' :: cs => readExponent line negative value places cs
  | 'E' :: cs => readExponent line negative value places cs
  | cs =>
    if places = 0 then (.ok (whole negative value), cs)
    else (decimal line negative value places, cs)

def readDigits (line : Nat) (negative : Bool) : List Char → Except Fault Scalar × List Char
  | [] => (.error ⟨.endsIn .value, some line⟩, [])
  | c :: cs =>
    if c = '0' then
      if (cs.head?.map Char.isDigit).getD false then (.error ⟨.badNumber, some line⟩, cs)
      else readRest line negative 0 0 cs
    else if c.isDigit then
      let digits := c :: cs.takeWhile Char.isDigit
      let (value, count) := gather 0 digits
      readRest line negative value (digits.length - count) (cs.dropWhile Char.isDigit)
    else (.error ⟨.badNumber, some (lineAfter line c)⟩, cs)

def readNumeral (line : Nat) (first : Char) (rest : List Char) :
    Except Fault Scalar × List Char :=
  if first = '-' then readDigits line true rest else readDigits line false (first :: rest)

/-! ## What is left is shorter -/

theorem length_readExponentDigits_le (line : Nat) (negative : Bool) (value : Nat) (exponent : Int)
    (down : Bool) (cs : List Char) :
    (readExponentDigits line negative value exponent down cs).2.length ≤ cs.length := by
  unfold readExponentDigits
  split
  · simp
  · split
    · exact Nat.le_succ_of_le (List.dropWhile_sublist _).length_le
    · simp

theorem length_readExponent_le (line : Nat) (negative : Bool) (value : Nat) (exponent : Int)
    (cs : List Char) : (readExponent line negative value exponent cs).2.length ≤ cs.length := by
  unfold readExponent
  split
  · exact Nat.le_succ_of_le (length_readExponentDigits_le ..)
  · exact Nat.le_succ_of_le (length_readExponentDigits_le ..)
  · exact length_readExponentDigits_le ..

theorem length_readScale_le (line : Nat) (negative : Bool) (value : Nat) (exponent : Int)
    (cs : List Char) : (readScale line negative value exponent cs).2.length ≤ cs.length := by
  unfold readScale
  split
  · exact Nat.le_succ_of_le (length_readExponent_le ..)
  · exact Nat.le_succ_of_le (length_readExponent_le ..)
  · exact Nat.le_refl _

theorem length_readFraction_le (line : Nat) (negative : Bool) (value : Nat) (exponent : Int)
    (cs : List Char) : (readFraction line negative value exponent cs).2.length ≤ cs.length := by
  unfold readFraction
  split
  · simp
  · split
    · exact Nat.le_succ_of_le
        (Nat.le_trans (length_readScale_le ..) (List.dropWhile_sublist _).length_le)
    · simp

theorem length_readRest_le (line : Nat) (negative : Bool) (value places : Nat) (cs : List Char) :
    (readRest line negative value places cs).2.length ≤ cs.length := by
  unfold readRest
  split
  · exact Nat.le_succ_of_le (length_readFraction_le ..)
  · exact Nat.le_succ_of_le (length_readExponent_le ..)
  · exact Nat.le_succ_of_le (length_readExponent_le ..)
  · split <;> exact Nat.le_refl _

theorem length_readDigits_le (line : Nat) (negative : Bool) (c : Char) (cs : List Char) :
    (readDigits line negative (c :: cs)).2.length ≤ cs.length := by
  simp only [readDigits]
  split
  · split
    · exact Nat.le_refl _
    · exact length_readRest_le ..
  · split
    · exact Nat.le_trans (length_readRest_le ..) (List.dropWhile_sublist _).length_le
    · exact Nat.le_refl _

theorem length_readNumeral_le (line : Nat) (first : Char) (rest : List Char) :
    (readNumeral line first rest).2.length ≤ rest.length := by
  unfold readNumeral
  split
  · cases rest with
    | nil => simp [readDigits]
    | cons c cs => exact Nat.le_succ_of_le (length_readDigits_le ..)
  · exact length_readDigits_le ..

end ScreenKeyboard.Json
