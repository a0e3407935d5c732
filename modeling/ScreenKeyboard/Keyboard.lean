import ScreenKeyboard.Definition.Check
import ScreenKeyboard.Symbols
/-!
# Keyboards

A keyboard is a checked grid with a customizer and its two pages of symbols.  `Keyboard.page?` is
the page for a form factor and an element, if the keyboard has one.  The page of letters is the grid
with accents, with the space bar row as its fourth row and the function keys around the letters.  A
shifted page is the same with the letters in upper case and the shift keys drawn as active; scripts
without upper case have none.
-/
namespace ScreenKeyboard

/-- A keyboard, of which every page can be made. -/
structure Keyboard where
  name : String
  customizer : Customizer
  grid : Grid
  symbols : SymbolPages
  symbolsShifted : SymbolPages
deriving DecidableEq

namespace Keyboard

/-! ## Making a keyboard -/

def make (name : String) (customizer : Customizer) (grid : Grid)
    (symbols symbolsShifted : SymbolMaker) : Except Fault Keyboard :=
  match grid.check customizer.accentedLetters with
  | .error fault => .error (fault.within name)
  | .ok _ => do
    let first ← symbols customizer
    let second ← symbolsShifted customizer
    return ⟨name, customizer, grid, first, second⟩

def noLocaleFault (name : String) : Fault :=
  .invalid [.error "Layout has no locale" "locale" (some "Add a locale such as \"en_US\"")]
    (some name)

def ofDefinition (d : Definition) (symbols symbolsShifted : SymbolMaker) :
    Except Fault Keyboard :=
  match d.locale with
  | none => .error (noLocaleFault d.name)
  | some locale =>
    make d.name (Customizer.ofPolicy locale d.policy) (Grid.ofDefinition d) symbols symbolsShifted

/-! ## Letters -/

/-- The letters with their accents, without function keys. -/
def letters (k : Keyboard) (form : FormFactor) : Page :=
  k.customizer.offerAccents (k.grid.page form)

/-- The letters in upper case, without function keys; only shifted pages have them, and only if the
script has upper case. -/
def shiftedLetters? (k : Keyboard) (form : FormFactor) (element : Element) : Option Page :=
  if element.isShifted && !k.grid.caseless then
    some ((k.letters form).upper k.customizer.locale)
  else none

/-! ## Pages -/

def spaceBarKeys (c : Customizer) (form : FormFactor) : Row :=
  Customizer.leftOfSpaceBar form ++ [.spaceBar] ++ c.rightOfSpaceBar form

def addFunctionKeys (form : FormFactor) (page : Page) : Page :=
  match form with
  | .phone =>
    page |>.addRight shiftRow [.delete]
      |>.addLeft spaceBarRow [.toSymbols]
      |>.addRight spaceBarRow [.enterOfferingEmoji]
  | .tablet =>
    page |>.addRight 1 [.delete]
      |>.addRight 2 [.enter]
      |>.addLeft spaceBarRow [.toSymbols, .settings]
      |>.addRight spaceBarRow [.emoji]

def complete (c : Customizer) (form : FormFactor) (page : Page) : Page :=
  addFunctionKeys form (page.setRow spaceBarRow (spaceBarKeys c form))
    |>.addLeft shiftRow c.leftShift
    |>.addRight shiftRow (c.rightShift form)

def page? (k : Keyboard) (form : FormFactor) (element : Element) : Option Page :=
  match element with
  | .symbols => some (k.symbols.page form)
  | .symbolsShifted => some (k.symbolsShifted.page form)
  | .letters => some (complete k.customizer form (k.letters form))
  | element =>
    (k.shiftedLetters? form element).map fun letters =>
      (complete k.customizer form letters).replaceAll .shift .shiftActive

end Keyboard

end ScreenKeyboard
