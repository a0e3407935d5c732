import ScreenKeyboard.Text.Blank
/-!
# Elements and form factors

A keyboard has several pages, and an element is the page that is asked for: the letters, the letters
shifted in one of four ways, the two pages of symbols, and the pads, which no keyboard of this
library has.  A form factor is the kind of device that the page is for.
-/
namespace ScreenKeyboard

/-- How the letters came to be shifted. -/
inductive ShiftState where
  | manual
  | automatic
  | locked
  | lockedAndShifted
deriving DecidableEq

inductive Element where
  | letters
  | shifted (state : ShiftState)
  | symbols
  | symbolsShifted
  | phonePad
  | phonePadSymbols
  | numberPad
deriving DecidableEq

namespace Element

def all : List Element :=
  [.letters, .shifted .manual, .shifted .automatic, .shifted .locked, .shifted .lockedAndShifted,
    .symbols, .symbolsShifted, .phonePad, .phonePadSymbols, .numberPad]

theorem mem_all (e : Element) : e ∈ all := by
  cases e with
  | shifted state => cases state <;> decide
  | _ => decide

def name : Element → String
  | .letters => "alphabet"
  | .shifted .manual => "alphabet_manual_shifted"
  | .shifted .automatic => "alphabet_automatic_shifted"
  | .shifted .locked => "alphabet_shift_locked"
  | .shifted .lockedAndShifted => "alphabet_shift_lock_shifted"
  | .symbols => "symbols"
  | .symbolsShifted => "symbols_shifted"
  | .phonePad => "phone"
  | .phonePadSymbols => "phone_symbols"
  | .numberPad => "number"

def names : List String := all.map name

def isShifted : Element → Bool
  | .shifted _ => true
  | _ => false

def isSymbols : Element → Bool
  | .symbols => true
  | .symbolsShifted => true
  | _ => false

def index (e : Element) : Nat := all.idxOf e

/-- A name as it was typed, brought into the form of the names: without blanks around it, in small
letters, and with `_` for `-`. -/
def normalName (typed : String) : String :=
  String.ofList ((Text.trimChars typed.toList).map fun c =>
    if c.toLower = '-' then '_' else c.toLower)

def parse? (typed : String) : Option Element := all.find? fun e => e.name == normalName typed

end Element

inductive FormFactor where
  | phone
  | tablet
deriving DecidableEq

namespace FormFactor

def name : FormFactor → String
  | .phone => "phone"
  | .tablet => "tablet"

def all : List FormFactor := [.phone, .tablet]

def isPhone (form : FormFactor) : Bool := form == .phone

end FormFactor

end ScreenKeyboard
