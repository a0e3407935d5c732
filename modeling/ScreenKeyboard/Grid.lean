import ScreenKeyboard.Definition
import ScreenKeyboard.Element
import ScreenKeyboard.Page
/-!
# Grids

A grid holds the letters of a keyboard, without any function keys.  Tablets may have letters of
their own; else they have those of phones.
-/
namespace ScreenKeyboard

/-- The letters of a keyboard, and whether their script has no upper case. -/
structure Grid where
  phone : Page
  tablet : Option Page
  caseless : Bool
deriving DecidableEq

namespace Grid

def page (grid : Grid) : FormFactor → Page
  | .phone => grid.phone
  | .tablet => grid.tablet.getD grid.phone

def pageOfSpecs (rows : List (List KeySpec)) : Page := ⟨rows.map (List.map KeySpec.key)⟩

def ofDefinition (d : Definition) : Grid where
  phone := pageOfSpecs d.phoneRows
  tablet := d.tabletRows.map pageOfSpecs
  caseless := d.caseless.getD false

end Grid

end ScreenKeyboard
