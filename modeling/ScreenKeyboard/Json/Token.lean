import ScreenKeyboard.Json.Numeral
/-!
# Tokens of a JSON text

A JSON text is cut into tokens before its structure is looked at: the six marks, and the scalars.
Every token has the line it starts on.  The tokens end in `stop`, or in a `bad` one where no scalar
could be made of the text; nothing after a bad token is looked at.

A fault inside a scalar has the line of the character that was read last, so a line break there
counts.  A token that stands where another one was called for is reported at its own line.
-/
namespace ScreenKeyboard.Json

inductive Lexeme where
  | openList
  | closeList
  | openObject
  | closeObject
  | comma
  | colon
  | scalar (value : Scalar)
  | bad (lead : Char) (fault : Fault)
  | stop
deriving DecidableEq

structure Token where
  line : Nat
  lexeme : Lexeme
deriving DecidableEq

/-! ## Words -/

def readWord (line : Nat) (value : Scalar) : List Char → List Char → Except Fault Scalar × List Char
  | [], cs => (.ok value, cs)
  | _ :: _, [] => (.error ⟨.endsIn .value, some line⟩, [])
  | w :: ws, c :: cs =>
    if c = w then readWord line value ws cs
    else (.error ⟨.noWord, some (lineAfter line c)⟩, cs)

/-! ## Texts -/

def hexValue? (c : Char) : Option Nat :=
  if c.isDigit then some (c.toNat - '0'.toNat)
  else if 'a' ≤ c ∧ c ≤ 'f' then some (c.toNat - 'a'.toNat + 10)
  else if 'A' ≤ c ∧ c ≤ 'F' then some (c.toNat - 'A'.toNat + 10)
  else none

def hexWord? (a b c d : Char) : Option Nat := do
  let a ← hexValue? a
  let b ← hexValue? b
  let c ← hexValue? c
  let d ← hexValue? d
  return ((a * 16 + b) * 16 + c) * 16 + d

/-- How many line breaks begin within so many bytes. -/
def breaksWithin : Nat → List Char → Nat
  | _, [] => 0
  | n, c :: cs =>
    if n = 0 then 0 else (if c = '\n' then 1 else 0) + breaksWithin (n - c.utf8Size) cs

def byteCount (cs : List Char) : Nat := (String.ofList cs).utf8ByteSize

/-- Reads four digits in base sixteen.  Where they are no digits, four bytes count as read; where
there are not that many, all the text does. -/
def readHexWord (line : Nat) (cs : List Char) : Except Fault Nat × List Char :=
  if byteCount (cs.take 4) < 4 then
    (.error ⟨.endsIn .text, some (line + breaksWithin 4 cs)⟩, [])
  else
    match cs with
    | a :: b :: c :: d :: rest =>
      match hexWord? a b c d with
      | some n => (.ok n, rest)
      | none => (.error ⟨.badEscape, some (line + breaksWithin 4 cs)⟩, rest)
    | _ => (.error ⟨.badEscape, some (line + breaksWithin 4 cs)⟩, [])

def isLeading (n : Nat) : Bool := 0xD800 ≤ n && n ≤ 0xDBFF

def isTrailing (n : Nat) : Bool := 0xDC00 ≤ n && n ≤ 0xDFFF

def pairChar (leading trailing : Nat) : Char :=
  Char.ofNat (0x10000 + (leading - 0xD800) * 0x400 + (trailing - 0xDC00))

def readTrailing (line leading : Nat) : List Char → Except Fault Char × List Char
  | [] => (.error ⟨.endsIn .text, some line⟩, [])
  | c :: cs =>
    if c = '\\' then
      match cs with
      | [] => (.error ⟨.endsIn .text, some line⟩, [])
      | d :: ds =>
        if d = 'u' then
          match readHexWord line ds with
          | (.error fault, rest) => (.error fault, rest)
          | (.ok trailing, rest) =>
            if isTrailing trailing then (.ok (pairChar leading trailing), rest)
            else (.error ⟨.loneSurrogate, some line⟩, rest)
        else (.error ⟨.cutSurrogate, some (lineAfter line d)⟩, ds)
    else (.error ⟨.cutSurrogate, some (lineAfter line c)⟩, cs)

def readByNumber (line : Nat) (cs : List Char) : Except Fault Char × List Char :=
  match readHexWord line cs with
  | (.error fault, rest) => (.error fault, rest)
  | (.ok n, rest) =>
    if isTrailing n then (.error ⟨.loneSurrogate, some line⟩, rest)
    else if isLeading n then readTrailing line n rest
    else (.ok (Char.ofNat n), rest)

def shortEscapes : List (Char × Char) :=
  [('"', '"'), ('\\', '\\'), ('/', '/'), ('b', '\x08'), ('f', '\x0C'), ('n', '\n'), ('r', '\r'),
    ('t', '\t')]

def readEscape (line : Nat) : List Char → Except Fault Char × List Char
  | [] => (.error ⟨.endsIn .text, some line⟩, [])
  | c :: cs =>
    if c = 'u' then readByNumber line cs
    else
      match shortEscapes.lookup c with
      | some d => (.ok d, cs)
      | none => (.error ⟨.badEscape, some (lineAfter line c)⟩, cs)

/-! ## What is left is shorter -/

theorem length_readWord_le (line : Nat) (value : Scalar) (word cs : List Char) :
    (readWord line value word cs).2.length ≤ cs.length := by
  induction word generalizing cs with
  | nil => simp [readWord]
  | cons w ws ih =>
    cases cs with
    | nil => simp [readWord]
    | cons c cs =>
      rw [readWord]
      split
      · exact Nat.le_succ_of_le (ih cs)
      · simp

theorem length_readHexWord_le (line : Nat) (cs : List Char) :
    (readHexWord line cs).2.length ≤ cs.length := by
  unfold readHexWord
  split
  · simp
  · split
    · split <;> simp <;> omega
    · simp

theorem length_readTrailing_le (line leading : Nat) (cs : List Char) :
    (readTrailing line leading cs).2.length ≤ cs.length := by
  unfold readTrailing
  split
  · simp
  next c cs =>
    split
    · cases cs with
      | nil => simp
      | cons d ds =>
        have h := length_readHexWord_le line ds
        simp only [List.length_cons]
        split
        · split
          · next e => rw [e] at h; dsimp only at h ⊢; omega
          · next e => rw [e] at h; dsimp only at h; split <;> dsimp only <;> omega
        · simp only; omega
    · simp

theorem length_readByNumber_le (line : Nat) (cs : List Char) :
    (readByNumber line cs).2.length ≤ cs.length := by
  have h := length_readHexWord_le line cs
  unfold readByNumber
  split
  · simp_all
  · next n rest e =>
    rw [e] at h
    split
    · exact h
    · split
      · exact Nat.le_trans (length_readTrailing_le line n rest) h
      · exact h

theorem length_readEscape_le (line : Nat) (cs : List Char) :
    (readEscape line cs).2.length ≤ cs.length := by
  unfold readEscape
  split
  · simp
  · next c cs =>
    split
    · exact Nat.le_succ_of_le (length_readByNumber_le line cs)
    · split <;> simp

/-- Reads a text behind its opening quote; `done` holds what was read of it, last character
first. -/
def readText (line : Nat) (done : List Char) : List Char → Except Fault Scalar × List Char
  | [] => (.error ⟨.endsIn .text, some line⟩, [])
  | c :: cs =>
    if c = '"' then (.ok (.text (String.ofList done.reverse)), cs)
    else if c = '\\' then
      let escape := readEscape line cs
      match escape.1 with
      | .ok d => readText line (d :: done) escape.2
      | .error fault => (.error fault, escape.2)
    else if c.toNat < 0x20 then (.error ⟨.controlInText, some (lineAfter line c)⟩, cs)
    else readText line (c :: done) cs
termination_by cs => cs.length
decreasing_by
  · exact Nat.lt_succ_of_le (length_readEscape_le line cs)
  · exact Nat.lt_succ_self _

theorem length_readText_le (line : Nat) (done cs : List Char) :
    (readText line done cs).2.length ≤ cs.length := by
  fun_induction readText line done cs with
  | case1 => simp
  | case2 => simp
  | case3 done cs _ escape d _ ih =>
    exact Nat.le_succ_of_le (Nat.le_trans ih (length_readEscape_le line cs))
  | case4 done cs _ escape fault _ => exact Nat.le_succ_of_le (length_readEscape_le line cs)
  | case5 => simp
  | case6 _ _ _ _ _ _ ih => exact Nat.le_succ_of_le ih

/-! ## Tokens -/

def isSpacing (c : Char) : Bool := c == ' ' || c == '\n' || c == '\t' || c == '\r'

def marks : List (Char × Lexeme) :=
  [('[', .openList), (']', .closeList), ('{', .openObject), ('}', .closeObject), (',', .comma),
    (':', .colon)]

def readScalar (line : Nat) (c : Char) (cs : List Char) : Except Fault Scalar × List Char :=
  if c = '"' then readText line [] cs
  else if c = 'n' then readWord line .null ['u', 'l', 'l'] cs
  else if c = 't' then readWord line (.bool true) ['r', 'u', 'e'] cs
  else if c = 'f' then readWord line (.bool false) ['a', 'l', 's', 'e'] cs
  else if c = '-' || c.isDigit then readNumeral line c cs
  else (.error ⟨.noValue, some line⟩, cs)

def readLexeme (line : Nat) (c : Char) (cs : List Char) : Lexeme × List Char :=
  match marks.lookup c with
  | some mark => (mark, cs)
  | none =>
    let reading := readScalar line c cs
    (match reading.1 with
      | .ok value => .scalar value
      | .error fault => .bad c fault, reading.2)

theorem length_readScalar_le (line : Nat) (c : Char) (cs : List Char) :
    (readScalar line c cs).2.length ≤ cs.length := by
  unfold readScalar
  repeat' split
  all_goals simp only [Nat.le_refl, length_readText_le, length_readWord_le, length_readNumeral_le]

theorem length_readLexeme_le (line : Nat) (c : Char) (cs : List Char) :
    (readLexeme line c cs).2.length ≤ cs.length := by
  unfold readLexeme
  split
  · exact Nat.le_refl _
  · exact length_readScalar_le line c cs

def tokens (line : Nat) : List Char → List Token
  | [] => [⟨line, .stop⟩]
  | c :: cs =>
    if isSpacing c then tokens (lineAfter line c) cs
    else
      let reading := readLexeme line c cs
      match reading.1 with
      | .bad lead fault => [⟨line, .bad lead fault⟩]
      | lexeme => ⟨line, lexeme⟩ :: tokens line reading.2
termination_by cs => cs.length
decreasing_by
  · exact Nat.lt_succ_self _
  · exact Nat.lt_succ_of_le (length_readLexeme_le line c cs)

end ScreenKeyboard.Json
