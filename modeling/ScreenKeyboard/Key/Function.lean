import ScreenKeyboard.Key
/-!
# Function keys and punctuation

The keys that all keyboards share: the ones that do something else than typing a letter, and what
the full stop offers.  Upper case leaves every icon key of a single code as it is.
-/
namespace ScreenKeyboard.Key

/-- What the shift key offers: capitals lock. -/
def capsLock : Key := coded " " Code.capsLock

def shift : Key := (icon "shift_key" Code.shift).offering [capsLock]

def shiftActive : Key := (icon "shift_key_shifted" Code.shift).offering [capsLock]

def toLetters : Key := coded "ABC" Code.switchPage

def toSymbols : Key := coded "?123" Code.switchPage

/-- Leads from the second page of symbols to the first. -/
def backToSymbols : Key := coded "?123" Code.shift

def moreSymbols : Key := coded "= \\ <" Code.shift

def moreSymbolsTablet : Key := coded "~ [ <" Code.shift

def delete : Key := icon "delete_key" Code.delete

def enter : Key := icon "enter_key" Code.enter

def emoji : Key := icon "emoji_action_key" Code.emoji

def settings : Key := icon "settings_key" Code.settings

def spaceBar : Key := icon "space_key" Code.space

/-- Ends the line, and offers the emoji: the enter key of phones. -/
def enterOfferingEmoji : Key := enter.offering [emoji]

def exclamationAndQuestion : List Key := [labelOffering "!" ["¡"], labelOffering "?" ["¿"]]

def phonePunctuation : List Key :=
  labels [";", "/", "(", ")", "#", "!", ",", "?", "&", "%", "+", "\"", "-", ":", "'", "@"]

def tabletPunctuation : List Key :=
  labels [";", "/", "(", ")", "#", "'", ",", "&", "%", "+", "\"", "-", ":", "@"]

end ScreenKeyboard.Key
