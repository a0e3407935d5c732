import ScreenKeyboard.Json.Node
import ScreenKeyboard.LetterMap
/-!
# Reading values from JSON trees

A decoder takes a node and gives a value, or the first fault that is met on the way through the
node.  The ones here read the kinds of values that formats are made of: texts, lists, maps, choices
and records.

A record is an object of named fields, or a list of their values in the order of the fields.  Its
fields are given by name to a function that puts one value into the record, so a record format is
that function and the list of its names.
-/
namespace ScreenKeyboard.Json

abbrev Decoded (α : Type) := Except Fault α

/-- A fault of something in a list or an object is noticed no later than the line after it. -/
def Decoded.orAt {α : Type} (line : Nat) (d : Decoded α) : Decoded α := d.mapError (·.orAt line)

/-- The make of a record: its name, its fields in order, and those that must be there. -/
structure RecordShape where
  name : String
  fields : List String
  required : List String

namespace Node

variable {α σ : Type}

def mismatch (wanted : String) : Node → Fault
  | .scalar line value => ⟨.wrongKind (.scalar value) wanted, some line⟩
  | .list line _ _ => ⟨.wrongKind .list wanted, some line⟩
  | .object line _ _ => ⟨.wrongKind .object wanted, some line⟩
  | .broken _ _ fault => fault

/-! ## Scalars -/

def asText : Node → Decoded String
  | .scalar _ (.text s) => .ok s
  | node => .error (node.mismatch "a string")

def asBool : Node → Decoded Bool
  | .scalar _ (.bool b) => .ok b
  | node => .error (node.mismatch "a boolean")

def asNull : Node → Decoded Unit
  | .scalar _ .null => .ok ()
  | node => .error (node.mismatch "unit")

def optional (read : Node → Decoded α) : Node → Decoded (Option α)
  | .scalar _ .null => .ok none
  | .broken line lead fault =>
    if lead = some 'n' then .error fault else some <$> read (.broken line lead fault)
  | node => some <$> read node

/-! ## Lists and maps -/

def asEnd : Ending → Decoded Unit
  | .closed _ => .ok ()
  | .broken fault => .error fault

def readItems (read : Node → Decoded α) (ending : Ending) : List (Item Node) → Decoded (List α)
  | [] => (fun _ => []) <$> asEnd ending
  | item :: items => do
    let value ← (read item.value).orAt item.after
    let values ← readItems read ending items
    return value :: values

def asList (read : Node → Decoded α) : Node → Decoded (List α)
  | .list _ items ending => readItems read ending items
  | node => .error (node.mismatch "a sequence")

def readMembers (read : Node → Decoded α) (ending : Ending) :
    List (Member Node) → Decoded (List (String × α))
  | [] => (fun _ => []) <$> asEnd ending
  | member :: members => do
    let value ← (read member.value).orAt member.after
    let values ← readMembers read ending members
    return (member.key, value) :: values

/-- A map; of a key that is repeated, the last value counts. -/
def asMap (read : Node → Decoded α) : Node → Decoded (LetterMap α)
  | .object _ members ending => LetterMap.ofList <$> readMembers read ending members
  | node => .error (node.mismatch "a map")

/-! ## Choices -/

def chosen (choices : List (String × α)) (line : Nat) (name : String) : Decoded α :=
  match choices.lookup name with
  | some value => .ok value
  | none => .error ⟨.unknownChoice name (choices.map Prod.fst), some line⟩

def closeChoice (after : Nat) : List (Member Node) → Ending → Decoded Unit
  | [], .closed _ => .ok ()
  | [], .broken ⟨.endsIn .object, line⟩ => .error ⟨.endsIn .object, line⟩
  | _, _ => .error ⟨.noValue, some after⟩

/-- One of several values that have names: the name, or an object that gives the name nothing. -/
def asChoice (choices : List (String × α)) : Node → Decoded α
  | .scalar line (.text name) => chosen choices line name
  | .scalar line _ => .error ⟨.noValue, some line⟩
  | .list line _ _ => .error ⟨.noValue, some line⟩
  | .object _ [] (.closed line) => .error ⟨.noValue, some line⟩
  | .object _ [] (.broken fault) => .error fault
  | .object _ (member :: members) ending => do
    let value ← chosen choices member.line member.key
    asNull member.value
    closeChoice member.after members ending
    return value
  | .broken line lead fault =>
    if lead = none ∨ lead = some '"' then .error fault else .error ⟨.noValue, some line⟩

/-! ## Records -/

/-- Puts the members of an object into a record, up to the end; `seen` are the fields that it has
been given. -/
def fillMembers (shape : RecordShape) (set : String → Node → σ → Decoded σ) (ending : Ending)
    (seen : List String) (record : σ) : List (Member Node) → Decoded σ
  | [] =>
    match ending with
    | .broken fault => .error fault
    | .closed line =>
      match shape.required.find? fun field => !seen.contains field with
      | some field => .error ⟨.missingField field, some line⟩
      | none => .ok record
  | member :: members =>
    if !shape.fields.contains member.key then
      .error ⟨.unknownField member.key shape.fields, some member.keyEnd⟩
    else if seen.contains member.key then
      .error ⟨.repeatedField member.key, some member.keyEnd⟩
    else do
      let record ← (set member.key member.value record).orAt member.after
      fillMembers shape set ending (member.key :: seen) record members

/-- Puts the items of a list into a record, one field after the other, up to the end.  What comes
after the last field is not looked at, only that something does. -/
def fillItems (shape : RecordShape) (set : String → Node → σ → Decoded σ) (ending : Ending)
    (record : σ) : List String → List (Item Node) → Decoded σ
  | [], [] =>
    match ending with
    | .closed _ => .ok record
    | .broken ⟨.noCommaInList, line⟩ => .error ⟨.trailingText, line⟩
    | .broken fault => .error fault
  | [], item :: _ => .error ⟨.trailingText, some item.value.line⟩
  | field :: fields, [] =>
    match ending with
    | .broken fault => .error fault
    | .closed line =>
      match (field :: fields).find? shape.required.contains with
      | some missing =>
        .error ⟨.tooFewItems (shape.fields.idxOf missing) shape.name shape.fields.length,
          some line⟩
      | none => .ok record
  | field :: fields, item :: items => do
    let record ← (set field item.value record).orAt item.after
    fillItems shape set ending record fields items

def asRecord (shape : RecordShape) (set : String → Node → σ → Decoded σ) (start : σ) :
    Node → Decoded σ
  | .object _ members ending => fillMembers shape set ending [] start members
  | .list _ items ending => fillItems shape set ending start shape.fields items
  | node => .error (node.mismatch ("struct " ++ shape.name))

end Node

def Document.read {α : Type} (read : Node → Decoded α) (document : Document) : Decoded α := do
  let value ← read document.root
  match document.trailing with
  | some fault => .error fault
  | none => return value

def decodeText {α : Type} (read : Node → Decoded α) (text : String) : Decoded α :=
  (Document.ofText text).read read

end ScreenKeyboard.Json
