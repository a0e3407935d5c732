/-!
# JSON values and their text

The values that the library writes, with the members of an object in the order in which they are
written.  There are two layouts of the text: one without any blanks, and one with a line for each
item and two more blanks for each level.  Both write an empty list as `[]`.
-/
namespace ScreenKeyboard

/-- A JSON value without fractions: all numbers that are written are whole. -/
inductive Json where
  | null
  | bool (b : Bool)
  | int (n : Int)
  | text (s : String)
  | list (items : List Json)
  | object (members : List (String × Json))

namespace Json

/-- A character inside a JSON string: quotes, backslashes and controls are escaped, all others are
written as themselves. -/
def escapedChar (c : Char) : List Char :=
  if c = '"' then ['\\', '"']
  else if c = '\\' then ['\\', '\\']
  else if c.toNat = 0x08 then ['\\', 'b']
  else if c.toNat = 0x09 then ['\\', 't']
  else if c.toNat = 0x0A then ['\\', 'n']
  else if c.toNat = 0x0C then ['\\', 'f']
  else if c.toNat = 0x0D then ['\\', 'r']
  else if c.toNat < 0x20 then
    ['\\', 'u', '0', '0', Nat.digitChar (c.toNat / 16), Nat.digitChar (c.toNat % 16)]
  else [c]

def escaped (s : String) : String :=
  String.ofList ('"' :: s.toList.flatMap escapedChar ++ ['"'])

def scalarText : Json → String
  | .null => "null"
  | .bool true => "true"
  | .bool false => "false"
  | .int n => toString n
  | .text s => escaped s
  | .list _ => "[]"
  | .object _ => "\x7b\x7d"

/-! ## Without blanks -/

mutual

def compact : Json → String
  | .list (x :: xs)           => "[" ++ compact x ++ compactItems xs
  | .object ((k, x) :: rest)  => "\x7b" ++ escaped k ++ ":" ++ compact x ++ compactMembers rest
  | x                         => scalarText x

def compactItems : List Json → String
  | []      => "]"
  | x :: xs => "," ++ compact x ++ compactItems xs

def compactMembers : List (String × Json) → String
  | []             => "\x7d"
  | (k, x) :: rest => "," ++ escaped k ++ ":" ++ compact x ++ compactMembers rest

end

/-! ## With a line for each item -/

def newLine (level : Nat) : String := "\n" ++ String.ofList (List.replicate (2 * level) ' ')

mutual

def prettyAt (level : Nat) : Json → String
  | .list (x :: xs)          =>
    "[" ++ newLine (level + 1) ++ prettyAt (level + 1) x ++ prettyItems level xs
  | .object ((k, x) :: rest) =>
    "\x7b" ++ newLine (level + 1) ++ escaped k ++ ": " ++ prettyAt (level + 1) x
      ++ prettyMembers level rest
  | x                        => scalarText x

def prettyItems (level : Nat) : List Json → String
  | []      => newLine level ++ "]"
  | x :: xs => "," ++ newLine (level + 1) ++ prettyAt (level + 1) x ++ prettyItems level xs

def prettyMembers (level : Nat) : List (String × Json) → String
  | []             => newLine level ++ "\x7d"
  | (k, x) :: rest =>
    "," ++ newLine (level + 1) ++ escaped k ++ ": " ++ prettyAt (level + 1) x
      ++ prettyMembers level rest

end

def pretty (value : Json) : String := prettyAt 0 value

/-- The object of those members that are there. -/
def ofMembers (members : List (Option (String × Json))) : Json := .object (members.filterMap id)

end Json

end ScreenKeyboard
