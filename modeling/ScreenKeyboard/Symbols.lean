import ScreenKeyboard.Customizer
/-!
# The pages of symbols

A keyboard has two pages of symbols, each in a form for phones and one for tablets.  Most of their
keys are the same everywhere.  Where a customizer decides, the common rows hold a placeholder, and
the first thing that is done is to put keys in its place; a page that lacks a placeholder cannot be
made.  Then the function keys are added around the rows, as each form factor has them.
-/
namespace ScreenKeyboard

structure SymbolPages where
  phone : Page
  tablet : Page
deriving DecidableEq

namespace SymbolPages

def page (pages : SymbolPages) : FormFactor → Page
  | .phone => pages.phone
  | .tablet => pages.tablet

/-- The function keys of phones around some symbols; `turn` leads to the other page. -/
def onPhone (turn : Key) (page : Page) : Page :=
  page |>.addLeft 3 [turn]
    |>.addRight 3 [.delete]
    |>.addLeft 4 [.toLetters]
    |>.addRight 4 [.enterOfferingEmoji]

def onTablet (turn : Key) (page : Page) : Page :=
  page |>.addRight 1 [.delete]
    |>.addRight 2 [.enter]
    |>.addLeft 3 [turn]
    |>.addRight 3 [turn]
    |>.addLeft 4 [.toLetters, .settings]
    |>.addRight 4 [.emoji]

end SymbolPages

/-- What makes the pages of symbols for a customizer, or fails to. -/
abbrev SymbolMaker := Customizer → Except Fault SymbolPages

namespace FirstSymbols

def currencyLabel : String := "CURRENCY"

def doubleQuoteLabel : String := "DOUBLE_QUOTE"

def singleQuoteLabel : String := "SINGLE_QUOTE"

def common : Page := ⟨[
  [.labelOffering "1" ["¹", "½", "⅓", "¼", "⅛"], .labelOffering "2" ["²", "⅔"],
    .labelOffering "3" ["³", "¾", "⅜"], .labelOffering "4" ["⁴"], .labelOffering "5" ["⅝"],
    .label "6", .labelOffering "7" ["⅞"], .label "8", .label "9", .labelOffering "0" ["ⁿ", "∅"]],
  [.label "@", .label "#", .label currencyLabel, .labelOffering "%" ["‰"], .label "&",
    .labelOffering "-" ["_", "–", "—", "·"], .labelOffering "+" ["±"],
    .labelOffering "(" ["<", "\x7b", "["], .labelOffering ")" [">", "\x7d", "]"]],
  [.labelOffering "*" ["†", "‡", "★"], .label doubleQuoteLabel, .label singleQuoteLabel,
    .label ":", .label ";", .labelOffering "!" ["¡"], .labelOffering "?" ["¿"]],
  [.label "_", .label "/", .spaceBar, .label ",", .labelOffering "." ["…"]]]⟩

def filled (c : Customizer) : Except Fault Page := do
  let page ← common.fill currencyLabel [c.currency.key]
  let page ← page.fill doubleQuoteLabel
    [(Key.label "\"").offering c.doubleQuoteOffers]
  page.fill singleQuoteLabel [(Key.label "'").offering c.singleQuoteOffers]

/-- What tablets have besides: two more symbols. -/
def widened (page : Page) : Page := page.addLeft 3 [.label "\\", .label "="]

def make : SymbolMaker := fun c => (fun page =>
  ⟨SymbolPages.onPhone (Customizer.moreSymbolsKey .phone) page,
    SymbolPages.onTablet (Customizer.moreSymbolsKey .tablet) (widened page)⟩) <$> filled c

end FirstSymbols

namespace SecondSymbols

def otherCurrenciesLabel : String := "OTHER_CURRENCY"

def common : Page := ⟨[
  [.label "~", .label "`", .label "|", .labelOffering "•" ["♪", "♥", "♠", "♦", "♣"], .label "√",
    .labelOffering "π" ["Π"], .label "÷", .label "×", .labelOffering "¶" ["§"], .label "∆"],
  [.label otherCurrenciesLabel, .labelOffering "^" ["↑", "↓", "←", "→"],
    .labelOffering "°" ["′", "″"], .labelOffering "=" ["≠", "≈", "∞"], .label "\x7b",
    .label "\x7d"],
  [.label "\\", .label "©", .label "®", .label "™", .label "℅", .label "[", .label "]"],
  [.labelOffering "<" ["‹", "≤", "«"], .labelOffering ">" ["›", "≥", "»"], .spaceBar, .label ",",
    .label "…"]]⟩

def filled (c : Customizer) : Except Fault Page :=
  common.fill otherCurrenciesLabel c.currency.otherKeys

def make : SymbolMaker := fun c => (fun page =>
  ⟨SymbolPages.onPhone .backToSymbols page, SymbolPages.onTablet .backToSymbols page⟩) <$> filled c

end SecondSymbols

end ScreenKeyboard
