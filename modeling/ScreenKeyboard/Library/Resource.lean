import ScreenKeyboard.Library
/-!
# Resources

The definitions of the library as they are written: a JSON text for each name.  `Library.read` looks
a name up among them and reads its text.
-/
namespace ScreenKeyboard.Library

/-! ## Texts -/

def germanText : String := "\x7b
  \"name\": \"Deutsch (QWERTZ)\",
  \"locale\": \"de_DE\",
  \"phone_rows\": [
    [\"q\", \"w\", \"e\", \"r\", \"t\", \"z\", \"u\", \"i\", \"o\", \"p\", \"ü\"],
    [\"a\", \"s\", \"d\", \"f\", \"g\", \"h\", \"j\", \"k\", \"l\", \"ö\", \"ä\"],
    [\"y\", \"x\", \"c\", \"v\", \"b\", \"n\", \"m\"]
  ],
  \"customizer\": \x7b
    \"currency\": \"euro\",
    \"double_quotes\": \"R9L\",
    \"single_quotes\": \"R9L\",
    \"double_angle_quotes\": \"RL\",
    \"single_angle_quotes\": \"RL\",
    \"accented_letters\": \x7b
      \"e\": [\"é\", \"è\", \"ê\", \"ë\", \"ė\"],
      \"u\": [\"û\", \"ù\", \"ú\", \"ū\"],
      \"o\": [\"ô\", \"ò\", \"ó\", \"õ\", \"œ\", \"ø\", \"ō\"],
      \"a\": [\"â\", \"à\", \"á\", \"æ\", \"ã\", \"å\", \"ā\"],
      \"s\": [\"ß\", \"ś\", \"š\"],
      \"n\": [\"ñ\", \"ń\"]
    \x7d
  \x7d
\x7d
"

def englishText : String := "\x7b
  \"name\": \"English (US)\",
  \"locale\": \"en_US\",
  \"inherits\": \"qwerty\",
  \"customizer\": \x7b
    \"currency\": \"dollar\",
    \"accented_letters\": \x7b
      \"e\": [\"é\", \"è\", \"ê\", \"ë\", \"ē\"],
      \"u\": [\"û\", \"ü\", \"ú\", \"ù\", \"ū\"],
      \"i\": [\"î\", \"ï\", \"í\", \"ī\", \"ì\"],
      \"o\": [\"ô\", \"ö\", \"ò\", \"ó\", \"œ\", \"ø\", \"ō\", \"õ\"],
      \"a\": [\"à\", \"á\", \"â\", \"ä\", \"æ\", \"ã\", \"å\", \"ā\"],
      \"s\": [\"ß\"],
      \"c\": [\"ç\"],
      \"n\": [\"ñ\"]
    \x7d
  \x7d
\x7d
"

def spanishText : String := "\x7b
  \"name\": \"Español\",
  \"locale\": \"es_ES\",
  \"phone_rows\": [
    [\"q\", \"w\", \"e\", \"r\", \"t\", \"y\", \"u\", \"i\", \"o\", \"p\"],
    [\"a\", \"s\", \"d\", \"f\", \"g\", \"h\", \"j\", \"k\", \"l\", \"ñ\"],
    [\"z\", \"x\", \"c\", \"v\", \"b\", \"n\", \"m\"]
  ],
  \"customizer\": \x7b
    \"currency\": \"euro\",
    \"accented_letters\": \x7b
      \"a\": [\"á\", \"à\", \"ä\", \"â\", \"ã\", \"å\", \"ą\", \"æ\", \"ā\", \"ª\"],
      \"e\": [\"é\", \"è\", \"ë\", \"ê\", \"ę\", \"ė\", \"ē\"],
      \"i\": [\"í\", \"ï\", \"ì\", \"î\", \"į\", \"ī\"],
      \"o\": [\"ó\", \"ò\", \"ö\", \"ô\", \"õ\", \"ø\", \"œ\", \"ō\", \"º\"],
      \"u\": [\"ú\", \"ü\", \"ù\", \"û\", \"ū\"],
      \"n\": [\"ń\"],
      \"c\": [\"ç\", \"ć\", \"č\"]
    \x7d,
    \"extra_punctuation\": [\"¡\", \"¿\"]
  \x7d
\x7d
"

def frenchText : String := "\x7b
  \"name\": \"Français (AZERTY)\",
  \"locale\": \"fr_FR\",
  \"phone_rows\": [
    [\"a\", \"z\", \"e\", \"r\", \"t\", \"y\", \"u\", \"i\", \"o\", \"p\"],
    [\"q\", \"s\", \"d\", \"f\", \"g\", \"h\", \"j\", \"k\", \"l\", \"m\"],
    [\"w\", \"x\", \"c\", \"v\", \"b\", \"n\", \x7b\"label\": \"'\", \"more_keys\": [\"‚\", \"‘\", \"’\", \"‹\", \"›\"]\x7d]
  ],
  \"customizer\": \x7b
    \"currency\": \"euro\",
    \"double_quotes\": \"L9R\",
    \"single_quotes\": \"L9R\",
    \"accented_letters\": \x7b
      \"a\": [\"à\", \"â\", \"æ\", \"á\", \"ä\", \"ã\", \"å\", \"ā\", \"ª\"],
      \"e\": [\"é\", \"è\", \"ê\", \"ë\", \"ę\", \"ė\", \"ē\"],
      \"i\": [\"î\", \"ï\", \"ì\", \"í\", \"į\", \"ī\"],
      \"o\": [\"ô\", \"œ\", \"ö\", \"ò\", \"ó\", \"õ\", \"ø\", \"ō\", \"º\"],
      \"u\": [\"ù\", \"û\", \"ü\", \"ú\", \"ū\"],
      \"c\": [\"ç\", \"ć\", \"č\"],
      \"y\": [\"ÿ\"]
    \x7d
  \x7d
\x7d
"

def dutchText : String := "\x7b
  \"name\": \"Nederlands\",
  \"locale\": \"nl_NL\",
  \"inherits\": \"qwerty\",
  \"customizer\": \x7b
    \"currency\": \"euro\",
    \"double_quotes\": \"R9L\",
    \"single_quotes\": \"R9L\",
    \"accented_letters\": \x7b
      \"e\": [\"é\", \"ë\", \"ê\", \"è\", \"ę\", \"ė\", \"ē\"],
      \"i\": [\"í\", \"ï\", \"ì\", \"î\", \"į\", \"ī\", \"ĳ\"],
      \"o\": [\"ó\", \"ö\", \"ô\", \"ò\", \"õ\", \"œ\", \"ø\", \"ō\"],
      \"a\": [\"á\", \"ä\", \"â\", \"à\", \"æ\", \"ã\", \"å\", \"ā\"],
      \"u\": [\"ú\", \"ü\", \"û\", \"ù\", \"ū\"],
      \"n\": [\"ñ\", \"ń\"]
    \x7d
  \x7d
\x7d
"

def qwertyText : String := "\x7b
  \"name\": \"qwerty\",
  \"phone_rows\": [
    [\"q\", \"w\", \"e\", \"r\", \"t\", \"y\", \"u\", \"i\", \"o\", \"p\"],
    [\"a\", \"s\", \"d\", \"f\", \"g\", \"h\", \"j\", \"k\", \"l\"],
    [\"z\", \"x\", \"c\", \"v\", \"b\", \"n\", \"m\"]
  ]
\x7d
"

def turkishText : String := "\x7b
  \"name\": \"Türkçe (Q)\",
  \"locale\": \"tr_TR\",
  \"phone_rows\": [
    [\"q\", \"w\", \"e\", \"r\", \"t\", \"y\", \"u\", \"ı\", \"o\", \"p\", \"ğ\", \"ü\"],
    [\"a\", \"s\", \"d\", \"f\", \"g\", \"h\", \"j\", \"k\", \"l\", \"ş\", \"i\"],
    [\"z\", \"x\", \"c\", \"v\", \"b\", \"n\", \"m\", \"ö\", \"ç\"]
  ],
  \"customizer\": \x7b
    \"accented_letters\": \x7b
      \"a\": [\"â\", \"ä\", \"á\"],
      \"e\": [\"é\", \"ə\"],
      \"o\": [\"ô\", \"œ\", \"ò\", \"ó\", \"õ\", \"ø\", \"ō\"],
      \"u\": [\"û\", \"ù\", \"ú\", \"ū\"],
      \"s\": [\"ś\", \"ß\", \"š\"],
      \"c\": [\"ć\", \"č\"]
    \x7d
  \x7d
\x7d
"

/-- The texts of all definitions by name, in order of the names. -/
def texts : List (String × String) :=
  [("de_DE", germanText), ("en_US", englishText), ("es_ES", spanishText), ("fr_FR", frenchText),
    ("nl_NL", dutchText), ("qwerty", qwertyText), ("tr_TR", turkishText)]

/-! ## Looking up -/

/-- The definition of a name, with or without its ending, read from its text. -/
def read (name : String) : Except Fault Definition :=
  match texts.lookup (baseName name) with
  | some text => Definition.ofTextAt (baseName name ++ ending) text
  | none => .error (unknownFault (baseName name))

end ScreenKeyboard.Library
