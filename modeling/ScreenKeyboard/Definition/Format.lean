import ScreenKeyboard.Definition
import ScreenKeyboard.Fault
import ScreenKeyboard.Json.Decode
/-!
# Definitions as JSON

The format of definition files, written (`toJson`) and read (`ofNode`).  What a definition leaves
open is left out, but for the policy, which is always there.  A key that offers nothing can be
written in two ways, as a text and as an object, and stays as it was written.

Unknown names are refused in a definition and in its policy.  In the object form of a key they are
passed over.
-/
namespace ScreenKeyboard

open Json (Decoded Member Node RecordShape)
open Json.Node

/-- The member of an object, if there is a value for it. -/
def optionalMember {α : Type} (name : String) (write : α → Json) (value : Option α) :
    Option (String × Json) :=
  value.map fun v => (name, write v)

def textsToJson (texts : List String) : Json := .list (texts.map .text)

/-! ## Locales and keys -/

def Locale.ofNode (node : Node) : Decoded Locale := do
  let tag ← asText node
  match Locale.parse? tag with
  | some locale => return locale
  | none => .error ⟨.refused (Fault.invalidLocale tag).text, none⟩

namespace KeySpec

def toJson : KeySpec → Json
  | .plain label => .text label
  | .offering label more => .object [("label", .text label), ("more_keys", textsToJson more)]

/-- The key of an object, by its members of the two known names. -/
def ofMembers? (labels offers : List (Member Node)) : Option KeySpec :=
  match labels, offers with
  | [label], [] => do
    let label ← (asText label.value).toOption
    return .offering label []
  | [label], [offer] => do
    let label ← (asText label.value).toOption
    let more ← (asList asText offer.value).toOption
    return .offering label more
  | _, _ => none

/-- The key of a node whose text is without fault. -/
def ofSound? : Node → Option KeySpec
  | .scalar _ (.text label) => some (.plain label)
  | .object _ members _ =>
    ofMembers? (members.filter (·.key == "label")) (members.filter (·.key == "more_keys"))
  | _ => none

/-- A key.  All of its text is looked at before its form. -/
def ofNode (node : Node) : Decoded KeySpec :=
  match node.fault? with
  | some fault => .error fault
  | none =>
    match ofSound? node with
    | some key => .ok key
    | none => .error ⟨.noForm "KeySpec", none⟩

end KeySpec

def rowsToJson (rows : List (List KeySpec)) : Json :=
  .list (rows.map fun row => .list (row.map KeySpec.toJson))

def rowsOfNode (node : Node) : Decoded (List (List KeySpec)) := asList (asList KeySpec.ofNode) node

/-! ## Policies -/

namespace Policy

def toJson (p : Policy) : Json := .ofMembers [
  optionalMember "currency" (fun c => .text (Currency.name c)) p.currency,
  optionalMember "double_quotes" (fun o => .text (QuoteOrder.name o)) p.doubleQuotes,
  optionalMember "single_quotes" (fun o => .text (QuoteOrder.name o)) p.singleQuotes,
  optionalMember "double_angle_quotes" (fun o => .text (AngleOrder.name o)) p.doubleAngles,
  optionalMember "single_angle_quotes" (fun o => .text (AngleOrder.name o)) p.singleAngles,
  optionalMember "has_shift_key" .bool p.hasShift,
  optionalMember "accented_letters"
    (fun m => .object (m.entries.map fun e => (e.1, textsToJson e.2))) p.accents,
  optionalMember "extra_punctuation" textsToJson p.extraPunctuation]

def shape : RecordShape where
  name := "CustomizerSpec"
  fields := ["currency", "double_quotes", "single_quotes", "double_angle_quotes",
    "single_angle_quotes", "has_shift_key", "accented_letters", "extra_punctuation"]
  required := []

def set (field : String) (node : Node) (p : Policy) : Decoded Policy :=
  match field with
  | "currency" => return { p with currency := ← optional (asChoice Currency.named) node }
  | "double_quotes" => return { p with doubleQuotes := ← optional (asChoice QuoteOrder.named) node }
  | "single_quotes" => return { p with singleQuotes := ← optional (asChoice QuoteOrder.named) node }
  | "double_angle_quotes" =>
    return { p with doubleAngles := ← optional (asChoice AngleOrder.named) node }
  | "single_angle_quotes" =>
    return { p with singleAngles := ← optional (asChoice AngleOrder.named) node }
  | "has_shift_key" => return { p with hasShift := ← optional asBool node }
  | "accented_letters" => return { p with accents := ← optional (asMap (asList asText)) node }
  | "extra_punctuation" => return { p with extraPunctuation := ← optional (asList asText) node }
  | _ => return p

def ofNode (node : Node) : Decoded Policy := asRecord shape set unset node

end Policy

/-! ## Definitions -/

namespace Definition

def toJson (d : Definition) : Json := .ofMembers [
  some ("name", .text d.name),
  optionalMember "locale" (fun l => .text (Locale.tag l)) d.locale,
  optionalMember "inherits" .text d.parent,
  if d.phoneRows = [] then none else some ("phone_rows", rowsToJson d.phoneRows),
  optionalMember "tablet_rows" rowsToJson d.tabletRows,
  optionalMember "caseless" .bool d.caseless,
  some ("customizer", d.policy.toJson)]

def shape : RecordShape where
  name := "LayoutDefinition"
  fields := ["name", "locale", "inherits", "phone_rows", "tablet_rows", "caseless", "customizer"]
  required := ["name"]

def set (field : String) (node : Node) (d : Definition) : Decoded Definition :=
  match field with
  | "name" => return { d with name := ← asText node }
  | "locale" => return { d with locale := ← optional Locale.ofNode node }
  | "inherits" => return { d with parent := ← optional asText node }
  | "phone_rows" => return { d with phoneRows := ← rowsOfNode node }
  | "tablet_rows" => return { d with tabletRows := ← optional rowsOfNode node }
  | "caseless" => return { d with caseless := ← optional asBool node }
  | "customizer" => return { d with policy := ← Policy.ofNode node }
  | _ => return d

def ofNode (node : Node) : Decoded Definition := asRecord shape set unset node

def ofText (text : String) : Except Fault Definition :=
  (Json.decodeText ofNode text).mapError (.json · none)

def ofTextAt (path text : String) : Except Fault Definition :=
  (ofText text).mapError (Fault.within path)

end Definition

end ScreenKeyboard
