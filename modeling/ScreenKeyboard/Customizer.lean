import ScreenKeyboard.Definition
import ScreenKeyboard.Element
import ScreenKeyboard.Key.Function
import ScreenKeyboard.Page.Edit
/-!
# Customizers

A customizer is a policy in which every choice is made, for a locale.  It gives the keys in which
keyboards differ: the currencies, the quotes, the shift keys, the keys beside the space bar and the
accented letters that are offered.
-/
namespace ScreenKeyboard

/-- All choices in which keyboards differ. -/
structure Customizer where
  locale : Locale
  currency : Currency
  doubleQuotes : QuoteOrder
  singleQuotes : QuoteOrder
  doubleAngles : AngleOrder
  singleAngles : AngleOrder
  hasShift : Bool
  accents : LetterMap (List Key)
  extraPunctuation : List Key
deriving DecidableEq

namespace Customizer

/-- The usual choices: dollars, low quotes first, a shift key, and no accents. -/
def standard (locale : Locale) : Customizer where
  locale
  currency := .dollar
  doubleQuotes := .lowLeftRight
  singleQuotes := .lowLeftRight
  doubleAngles := .leftRight
  singleAngles := .leftRight
  hasShift := true
  accents := .empty
  extraPunctuation := []

def ofPolicy (locale : Locale) (p : Policy) : Customizer where
  locale
  currency := p.currency.getD .dollar
  doubleQuotes := p.doubleQuotes.getD .lowLeftRight
  singleQuotes := p.singleQuotes.getD .lowLeftRight
  doubleAngles := p.doubleAngles.getD .leftRight
  singleAngles := p.singleAngles.getD .leftRight
  hasShift := p.hasShift.getD true
  accents := (p.accents.map (LetterMap.map Key.labels)).getD .empty
  extraPunctuation := Key.labels (p.extraPunctuation.getD [])

theorem ofPolicy_unset (locale : Locale) : ofPolicy locale .unset = standard locale := rfl

def accentedLetters (c : Customizer) : List String := c.accents.letters

theorem accentedLetters_ofPolicy (locale : Locale) (p : Policy) :
    (ofPolicy locale p).accentedLetters = (p.accents.map LetterMap.letters).getD [] := by
  cases h : p.accents <;> simp [accentedLetters, ofPolicy, h, LetterMap.empty, LetterMap.letters,
    LetterMap.map, Function.comp_def]

def offerAccents (c : Customizer) (page : Page) : Page := page.offerEach c.accents.entries

def moreSymbolsKey : FormFactor → Key
  | .phone => .moreSymbols
  | .tablet => .moreSymbolsTablet

def doubleQuoteOffers (c : Customizer) : List Key :=
  c.doubleQuotes.doubleKeys ++ c.doubleAngles.doubleKeys

def singleQuoteOffers (c : Customizer) : List Key :=
  c.singleQuotes.singleKeys ++ c.singleAngles.singleKeys

def leftShift (c : Customizer) : List Key := if c.hasShift then [.shift] else []

/-- What stands right of the letters in the shift row: on tablets two marks and a shift key. -/
def rightShift (c : Customizer) : FormFactor → List Key
  | .phone => []
  | .tablet => Key.exclamationAndQuestion ++ if c.hasShift then [.shift] else []

def leftOfSpaceBar : FormFactor → List Key
  | .phone => [(Key.label ",").offering [.settings]]
  | .tablet => [.label "/"]

def punctuation (c : Customizer) (form : FormFactor) : List Key :=
  (match form with
    | .phone => Key.phonePunctuation
    | .tablet => Key.tabletPunctuation) ++ c.extraPunctuation

def rightOfSpaceBar (c : Customizer) (form : FormFactor) : List Key :=
  let fullStop := (Key.label ".").offering (c.punctuation form)
  match form with
  | .phone => [fullStop]
  | .tablet => [.label ",", fullStop]

end Customizer

end ScreenKeyboard
