import ScreenKeyboard.Keyboard
import ScreenKeyboard.Library
/-!
# The registry

The locales for which there is a keyboard, each with the definition and the pages of symbols that it
is made from.  A locale is looked up by its tag.
-/
namespace ScreenKeyboard

structure Registration where
  tag : String
  resource : String
  symbols : SymbolMaker
  symbolsShifted : SymbolMaker

namespace Registration

/-- A locale whose definition has the name of its tag, with the usual pages of symbols. -/
def standard (tag : String) : Registration := ⟨tag, tag, FirstSymbols.make, SecondSymbols.make⟩

end Registration

namespace Registry

def tags : List String := ["en_US", "nl_NL", "de_DE", "fr_FR", "es_ES", "tr_TR"]

def entries : List Registration := tags.map .standard

def locales : List Locale := tags.filterMap Locale.parse?

/-- There is no keyboard for a locale: tells of one that may have been meant, or else of all. -/
def unknownFault (tag : String) : Fault :=
  .unknownLocale tag (some (match Text.similar? tag tags with
    | some similar => "Did you mean '" ++ similar ++ "'?"
    | none => "Registered locales: " ++ String.intercalate ", " tags))

def find (locale : Locale) : Except Fault Registration :=
  match entries.find? fun entry => entry.tag == locale.tag with
  | some entry => .ok entry
  | none => .error (unknownFault locale.tag)

def mismatchFault (found : Option Locale) (locale : Locale) (resource : String) : Fault :=
  let foundTag := match found with
    | none => "none"
    | some l => l.tag
  .invalid [.error
    ("Definition is for locale " ++ foundTag ++ ", registered as " ++ locale.tag) "locale"
    (some ("Set \"locale\": \"" ++ locale.tag ++ "\""))] (some resource)

def load (locale : Locale) : Except Fault Keyboard := do
  let entry ← find locale
  let checked ← Library.load entry.resource
  if checked.definition.locale = some locale then
    Keyboard.ofDefinition checked.definition entry.symbols entry.symbolsShifted
  else .error (mismatchFault checked.definition.locale locale entry.resource)

def loadAll : Except Fault (List Keyboard) := locales.mapM load

end Registry

end ScreenKeyboard
