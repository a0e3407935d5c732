import ScreenKeyboard.Element
import ScreenKeyboard.Files
import ScreenKeyboard.Issue
import ScreenKeyboard.Json.Fault
/-!
# Faults

Everything that can go wrong when a layout is read, checked and composed, as causes.  `Fault.text`
is the message, in one place; where there is something to be done about a fault, its last line says
what (`Fault.suggestion?`).
-/
namespace ScreenKeyboard

inductive Fault where
  | unreadable (reason : FileFault) (path : Option String)
  | json (fault : Json.Fault) (path : Option String)
  | invalid (issues : List Issue) (path : Option String)
  | cycle (detail : String) (chain : List String)
  | tooDeep (detail : String) (limit actual : Nat)
  | unknownResource (name : String) (suggestion : Option String)
  | unknownLocale (tag : String) (suggestion : Option String)
  | invalidLocale (tag : String)
  | invalidElement (name : String)
  | missingKey (label : String)
deriving DecidableEq

namespace Fault

def suggestion? : Fault → Option String
  | .unreadable _ none => none
  | .unreadable _ (some _) => some "Check that the file exists and you have read permissions"
  | .json _ _ => some "Check the JSON syntax at the indicated line"
  | .invalid _ _ => none
  | .cycle _ _ => some "Remove or break the circular dependency"
  | .tooDeep _ limit _ => some ("Reduce inheritance depth to " ++ toString limit ++ " or less")
  | .unknownResource _ s => s
  | .unknownLocale _ s => s
  | .invalidLocale _ => some "Use a tag like 'en_US' or 'de'"
  | .invalidElement _ => some ("Use one of: " ++ String.intercalate ", " Element.names)
  | .missingKey _ => none

def pathText (lead : String) : Option String → String
  | none => ""
  | some path => lead ++ "'" ++ path ++ "'"

def issueLines (issues : List Issue) : String :=
  String.join (issues.mapIdx fun i issue => "\n  " ++ toString (i + 1) ++ ". " ++ issue.text)

def statement : Fault → String
  | .unreadable reason none => "I/O error: " ++ reason.text
  | .unreadable reason (some path) => "Cannot read '" ++ path ++ "': " ++ reason.text
  | .json fault path =>
    "Invalid JSON" ++ pathText " in " path ++ " (line " ++ toString (fault.line.getD 0) ++ "): "
      ++ fault.text
  | .invalid issues path =>
    "Layout definition" ++ pathText " " path ++ " is invalid (" ++ toString issues.length
      ++ " issue(s))" ++ issueLines issues
  | .cycle detail chain =>
    "Inheritance cycle: " ++ detail ++ "\n  Chain: " ++ String.intercalate " -> " chain
  | .tooDeep detail limit actual =>
    "Inheritance too deep: " ++ detail ++ " (" ++ toString actual ++ " levels, at most "
      ++ toString limit ++ ")"
  | .unknownResource name _ => "Layout resource '" ++ name ++ "' not found"
  | .unknownLocale tag _ => "No layout registered for locale '" ++ tag ++ "'"
  | .invalidLocale tag => "Invalid locale tag '" ++ tag ++ "'"
  | .invalidElement name => "Unknown element id '" ++ name ++ "'"
  | .missingKey label => "Can't find key '" ++ label ++ "' in layout"

/-- The message of a fault: what went wrong, and on a line of its own what can be done. -/
def text (fault : Fault) : String :=
  fault.statement ++ match fault.suggestion? with
    | none => ""
    | some hint => "\n  Suggestion: " ++ hint

def source? : Fault → Option String
  | .unreadable reason _ => some reason.text
  | .json fault _ => some fault.text
  | _ => none

/-- Says of a fault what it was found in, unless that is known; files know their own path. -/
def within (path : String) : Fault → Fault
  | .json fault none => .json fault (some path)
  | .invalid issues none => .invalid issues (some path)
  | other => other

end Fault

end ScreenKeyboard
