import ScreenKeyboard.Definition.Check
import ScreenKeyboard.Definition.Format
import ScreenKeyboard.Definition.Lineage
import ScreenKeyboard.Text.Similar
/-!
# The library of definitions

The definitions that come with the library, by name.  A name may be given with the ending `.json`.
Parents are looked up here, wherever a definition itself comes from: from the library, from a text,
or from a file.  Either way it is completed by its ancestors and checked, and a fault names its
origin if there is one.
-/
namespace ScreenKeyboard

namespace Library

/-! ## Definitions -/

def plainRow (labels : List String) : List KeySpec := labels.map .plain

/-- The letters of English keyboards, for definitions to build on. -/
def qwerty : Definition where
  name := "qwerty"
  locale := none
  parent := none
  phoneRows := [
    plainRow ["q", "w", "e", "r", "t", "y", "u", "i", "o", "p"],
    plainRow ["a", "s", "d", "f", "g", "h", "j", "k", "l"],
    plainRow ["z", "x", "c", "v", "b", "n", "m"]]
  tabletRows := none
  caseless := none
  policy := .unset

def english : Definition where
  name := "English (US)"
  locale := some ⟨"en", some "US", by decide +kernel, by decide +kernel⟩
  parent := some "qwerty"
  phoneRows := []
  tabletRows := none
  caseless := none
  policy := { Policy.unset with
    currency := some .dollar
    accents := some ⟨[
      ("a", ["à", "á", "â", "ä", "æ", "ã", "å", "ā"]),
      ("c", ["ç"]),
      ("e", ["é", "è", "ê", "ë", "ē"]),
      ("i", ["î", "ï", "í", "ī", "ì"]),
      ("n", ["ñ"]),
      ("o", ["ô", "ö", "ò", "ó", "œ", "ø", "ō", "õ"]),
      ("s", ["ß"]),
      ("u", ["û", "ü", "ú", "ù", "ū"])], by decide +kernel⟩ }

def dutch : Definition where
  name := "Nederlands"
  locale := some ⟨"nl", some "NL", by decide +kernel, by decide +kernel⟩
  parent := some "qwerty"
  phoneRows := []
  tabletRows := none
  caseless := none
  policy := { Policy.unset with
    currency := some .euro
    doubleQuotes := some .rightLowLeft
    singleQuotes := some .rightLowLeft
    accents := some ⟨[
      ("a", ["á", "ä", "â", "à", "æ", "ã", "å", "ā"]),
      ("e", ["é", "ë", "ê", "è", "ę", "ė", "ē"]),
      ("i", ["í", "ï", "ì", "î", "į", "ī", "ĳ"]),
      ("n", ["ñ", "ń"]),
      ("o", ["ó", "ö", "ô", "ò", "õ", "œ", "ø", "ō"]),
      ("u", ["ú", "ü", "û", "ù", "ū"])], by decide +kernel⟩ }

def german : Definition where
  name := "Deutsch (QWERTZ)"
  locale := some ⟨"de", some "DE", by decide +kernel, by decide +kernel⟩
  parent := none
  phoneRows := [
    plainRow ["q", "w", "e", "r", "t", "z", "u", "i", "o", "p", "ü"],
    plainRow ["a", "s", "d", "f", "g", "h", "j", "k", "l", "ö", "ä"],
    plainRow ["y", "x", "c", "v", "b", "n", "m"]]
  tabletRows := none
  caseless := none
  policy := { Policy.unset with
    currency := some .euro
    doubleQuotes := some .rightLowLeft
    singleQuotes := some .rightLowLeft
    doubleAngles := some .rightLeft
    singleAngles := some .rightLeft
    accents := some ⟨[
      ("a", ["â", "à", "á", "æ", "ã", "å", "ā"]),
      ("e", ["é", "è", "ê", "ë", "ė"]),
      ("n", ["ñ", "ń"]),
      ("o", ["ô", "ò", "ó", "õ", "œ", "ø", "ō"]),
      ("s", ["ß", "ś", "š"]),
      ("u", ["û", "ù", "ú", "ū"])], by decide +kernel⟩ }

def french : Definition where
  name := "Français (AZERTY)"
  locale := some ⟨"fr", some "FR", by decide +kernel, by decide +kernel⟩
  parent := none
  phoneRows := [
    plainRow ["a", "z", "e", "r", "t", "y", "u", "i", "o", "p"],
    plainRow ["q", "s", "d", "f", "g", "h", "j", "k", "l", "m"],
    plainRow ["w", "x", "c", "v", "b", "n"]
      ++ [.offering "'" ["‚", "‘", "’", "‹", "›"]]]
  tabletRows := none
  caseless := none
  policy := { Policy.unset with
    currency := some .euro
    doubleQuotes := some .leftLowRight
    singleQuotes := some .leftLowRight
    accents := some ⟨[
      ("a", ["à", "â", "æ", "á", "ä", "ã", "å", "ā", "ª"]),
      ("c", ["ç", "ć", "č"]),
      ("e", ["é", "è", "ê", "ë", "ę", "ė", "ē"]),
      ("i", ["î", "ï", "ì", "í", "į", "ī"]),
      ("o", ["ô", "œ", "ö", "ò", "ó", "õ", "ø", "ō", "º"]),
      ("u", ["ù", "û", "ü", "ú", "ū"]),
      ("y", ["ÿ"])], by decide +kernel⟩ }

def spanish : Definition where
  name := "Español"
  locale := some ⟨"es", some "ES", by decide +kernel, by decide +kernel⟩
  parent := none
  phoneRows := [
    plainRow ["q", "w", "e", "r", "t", "y", "u", "i", "o", "p"],
    plainRow ["a", "s", "d", "f", "g", "h", "j", "k", "l", "ñ"],
    plainRow ["z", "x", "c", "v", "b", "n", "m"]]
  tabletRows := none
  caseless := none
  policy := { Policy.unset with
    currency := some .euro
    accents := some ⟨[
      ("a", ["á", "à", "ä", "â", "ã", "å", "ą", "æ", "ā", "ª"]),
      ("c", ["ç", "ć", "č"]),
      ("e", ["é", "è", "ë", "ê", "ę", "ė", "ē"]),
      ("i", ["í", "ï", "ì", "î", "į", "ī"]),
      ("n", ["ń"]),
      ("o", ["ó", "ò", "ö", "ô", "õ", "ø", "œ", "ō", "º"]),
      ("u", ["ú", "ü", "ù", "û", "ū"])], by decide +kernel⟩
    extraPunctuation := some ["¡", "¿"] }

def turkish : Definition where
  name := "Türkçe (Q)"
  locale := some ⟨"tr", some "TR", by decide +kernel, by decide +kernel⟩
  parent := none
  phoneRows := [
    plainRow ["q", "w", "e", "r", "t", "y", "u", "ı", "o", "p", "ğ", "ü"],
    plainRow ["a", "s", "d", "f", "g", "h", "j", "k", "l", "ş", "i"],
    plainRow ["z", "x", "c", "v", "b", "n", "m", "ö", "ç"]]
  tabletRows := none
  caseless := none
  policy := { Policy.unset with
    accents := some ⟨[
      ("a", ["â", "ä", "á"]),
      ("c", ["ć", "č"]),
      ("e", ["é", "ə"]),
      ("o", ["ô", "œ", "ò", "ó", "õ", "ø", "ō"]),
      ("s", ["ś", "ß", "š"]),
      ("u", ["û", "ù", "ú", "ū"])], by decide +kernel⟩ }

/-! ## Looking up -/

def entries : List (String × Definition) :=
  [("de_DE", german), ("en_US", english), ("es_ES", spanish), ("fr_FR", french), ("nl_NL", dutch),
    ("qwerty", qwerty), ("tr_TR", turkish)]

def names : List String := entries.map Prod.fst

def ending : String := ".json"

def folder : String := "resources/layouts"

/-- A name without one ending, if it has one. -/
def baseName (name : String) : String :=
  let cs := name.toList
  if ending.toList.isSuffixOf cs then String.ofList (cs.take (cs.length - ending.length)) else name

/-- There is no definition of a name: tells of one that may have been meant, or else where it could
be put. -/
def unknownFault (base : String) : Fault :=
  .unknownResource base (some (match Text.similar? base names with
    | some name => "Did you mean '" ++ name ++ "'?"
    | none => "Add " ++ folder ++ "/" ++ base ++ ending))

def find (name : String) : Except Fault Definition :=
  match entries.lookup (baseName name) with
  | some d => .ok d
  | none => .error (unknownFault (baseName name))

end Library

namespace Definition

/-- A definition that is completed by ancestors from the library, and checked; faults name its
origin. -/
def finish (origin : Option String) (d : Definition) : Except Fault Checked :=
  (resolve Library.find origin d >>= check).mapError fun fault =>
    match origin with
    | some path => fault.within path
    | none => fault

def load (text : String) : Except Fault Checked := ofText text >>= finish none

def loadFile (files : Files) (path : String) : Except Fault Checked :=
  match files.read path with
  | .error reason => .error (.unreadable reason (some path))
  | .ok text => ofTextAt path text >>= finish (some path)

end Definition

def Library.load (name : String) : Except Fault Checked :=
  Library.find name >>= Definition.finish (some name)

end ScreenKeyboard
