/-!
# Codes of keys

A code says what a key emits when it is more than text: a code that is not negative is a
character, a negative one is a function of the keyboard.  Functions, and the two characters that
would not show, have names.
-/
namespace ScreenKeyboard

/-- A character's code point, or the negative code of a function. -/
abbrev Code := Int

namespace Code

def enter : Code := 10
def space : Code := 32
/-- Shifts the letters, or leads from one page of symbols to the other. -/
def shift : Code := -1
def capsLock : Code := -2
def switchPage : Code := -3
/-- What stands for the code of a key that emits a text. -/
def outputText : Code := -4
def delete : Code := -5
def settings : Code := -6
def shortcut : Code := -7
def actionNext : Code := -8
def actionPrevious : Code := -9
def languageSwitch : Code := -10
def emoji : Code := -11
def shiftEnter : Code := -12
def symbolShift : Code := -13
def unspecified : Code := -15

def names : List (Code × String) :=
  [(enter, "enter"), (space, "space"), (shift, "shift"), (capsLock, "capslock"),
    (switchPage, "symbol"), (outputText, "text"), (delete, "delete"), (settings, "settings"),
    (shortcut, "shortcut"), (actionNext, "actionNext"), (actionPrevious, "actionPrevious"),
    (languageSwitch, "languageSwitch"), (emoji, "emoji"), (shiftEnter, "shiftEnter"),
    (symbolShift, "symbolShift"), (unspecified, "unspec")]

def name? (code : Code) : Option String := names.lookup code

/-- Whether a code is a character that can stand on a key, and not a function or a control. -/
def isLetter (code : Code) : Bool := space ≤ code

def char? (code : Code) : Option Char :=
  match code with
  | .ofNat n => if n.isValidChar then some (Char.ofNat n) else none
  | .negSucc _ => none

def text (code : Code) : String :=
  match name? code with
  | some name => "!code/" ++ name
  | none =>
    match char? code with
    | some c => String.singleton c
    | none => "!code/" ++ toString code

def ofChar (c : Char) : Code := Int.ofNat c.toNat

@[simp] theorem char?_ofChar (c : Char) : char? (ofChar c) = some c := by
  have valid : c.toNat.isValidChar := c.valid
  unfold ofChar char?
  simp [valid]

end Code

end ScreenKeyboard
