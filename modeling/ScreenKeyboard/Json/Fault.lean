import ScreenKeyboard.Text.Quoted
/-!
# What is wrong with a JSON text

A JSON text can be at fault in two ways.  It may be no JSON at all (`Cause` up to `tooDeep`), or it
may be JSON of the wrong make for what is read from it: the wrong kind of value, a field that is
missing, repeated or unknown, a name that is no choice.  A fault has the line at which it was
noticed; some are noticed only after the value has been read, and then the list or object around the
value gives them the line that reading has reached (`Fault.orAt`).
-/
namespace ScreenKeyboard

namespace Json

inductive Piece where
  | value
  | text
  | list
  | object
deriving DecidableEq

/-- A value with nothing in it: a word, a number or a text.  Of a number that is not whole, or too
large, its shortest text is kept. -/
inductive Scalar where
  | null
  | bool (b : Bool)
  | int (n : Int)
  | decimal (text : String)
  | text (s : String)
deriving DecidableEq

inductive Found where
  | scalar (value : Scalar)
  | list
  | object
deriving DecidableEq

inductive Cause where
  | endsIn (piece : Piece)
  | noValue
  | noWord
  | noColon
  | noCommaInList
  | noCommaInObject
  | trailingComma
  | trailingText
  | keyNotText
  | badEscape
  | controlInText
  | loneSurrogate
  | cutSurrogate
  | badNumber
  | numberTooLarge
  | tooDeep
  | wrongKind (found : Found) (wanted : String)
  | unknownField (name : String) (known : List String)
  | repeatedField (name : String)
  | missingField (name : String)
  | unknownChoice (name : String) (choices : List String)
  | tooFewItems (count : Nat) (record : String) (fields : Nat)
  | noForm (type : String)
  | refused (reason : String)
deriving DecidableEq

/-- What is wrong, and the line at which that was noticed, if reading a line at all. -/
structure Fault where
  cause : Cause
  line : Option Nat
deriving DecidableEq

def Piece.name : Piece → String
  | .value => "a value"
  | .text => "a string"
  | .list => "a list"
  | .object => "an object"

def marked (name : String) : String := "`" ++ name ++ "`"

def Found.shown : Found → String
  | .scalar .null => "null"
  | .scalar (.bool true) => "boolean " ++ marked "true"
  | .scalar (.bool false) => "boolean " ++ marked "false"
  | .scalar (.int n) => "integer " ++ marked (toString n)
  | .scalar (.decimal t) => "floating point " ++ marked t
  | .scalar (.text s) => "string " ++ Text.quoted s
  | .list => "sequence"
  | .object => "map"

def oneOf (names : List String) : String :=
  match names with
  | [a] => marked a
  | [a, b] => marked a ++ " or " ++ marked b
  | _ => "one of " ++ String.intercalate ", " (names.map marked)

def Cause.text : Cause → String
  | .endsIn piece => "EOF while parsing " ++ piece.name
  | .noValue => "expected value"
  | .noWord => "expected ident"
  | .noColon => "expected `:`"
  | .noCommaInList => "expected `,` or `]`"
  | .noCommaInObject => "expected `,` or `\x7d`"
  | .trailingComma => "trailing comma"
  | .trailingText => "trailing characters"
  | .keyNotText => "key must be a string"
  | .badEscape => "invalid escape"
  | .controlInText => "control character (\\u0000-\\u001F) found while parsing a string"
  | .loneSurrogate => "lone leading surrogate in hex escape"
  | .cutSurrogate => "unexpected end of hex escape"
  | .badNumber => "invalid number"
  | .numberTooLarge => "number out of range"
  | .tooDeep => "recursion limit exceeded"
  | .wrongKind found wanted => "invalid type: " ++ found.shown ++ ", expected " ++ wanted
  | .unknownField name known => "unknown field " ++ marked name ++ ", expected " ++ oneOf known
  | .repeatedField name => "duplicate field " ++ marked name
  | .missingField name => "missing field " ++ marked name
  | .unknownChoice name choices =>
    "unknown variant " ++ marked name ++ ", expected " ++ oneOf choices
  | .tooFewItems count record fields =>
    "invalid length " ++ toString count ++ ", expected struct " ++ record ++ " with "
      ++ toString fields ++ " elements"
  | .noForm type => "data did not match any variant of untagged enum " ++ type
  | .refused reason => reason

namespace Fault

/-- A fault without a line is noticed at the line that reading has reached. -/
def orAt (fault : Fault) (line : Nat) : Fault :=
  match fault.line with
  | some _ => fault
  | none => { fault with line := some line }

def text (fault : Fault) : String :=
  match fault.line with
  | some line => fault.cause.text ++ " at line " ++ toString line
  | none => fault.cause.text

end Fault

end Json

end ScreenKeyboard
