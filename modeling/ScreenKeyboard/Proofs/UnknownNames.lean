import ScreenKeyboard.Proofs.StrictReading
/-!
# Unknown names

A name that is no field is a fault in a definition and in its policy.  In the object form of a key it is passed over
together with its value, so a misspelt name costs the key what it was to offer, and nobody is told.  In other words, keys
can be trimmed to the names that count, and the tree of a sound text is read as before (`Definition.ignores_trimmed`).
-/
namespace ScreenKeyboard

namespace Json.Node

variable {α σ : Type} {read : Node → Decoded α}

/-! ## Changes within a tree -/

def mapList (f : Node → Node) : Node → Node
  | .list line items ending => .list line (items.map fun item => { item with value := f item.value }) ending
  | node => node

/-- The items that stand for some fields, changed. -/
def mapItems (f : String → Node → Node) : List String → List (Item Node) → List (Item Node)
  | field :: fields, item :: items => { item with value := f field item.value } :: mapItems f fields items
  | _, items => items

/-- A record with the values of its fields changed. -/
def mapRecord (shape : RecordShape) (f : String → Node → Node) : Node → Node
  | .object line members ending =>
    .object line (members.map fun member => { member with value := f member.key member.value }) ending
  | .list line items ending => .list line (mapItems f shape.fields items) ending
  | node => node

/-- A change that makes no difference to what is read from a node whose text is sound, be it a value or a fault. -/
def Ignores (read : Node → Decoded α) (change : Node → Node) : Prop :=
  ∀ node, node.fault? = none → read (change node) = read node

namespace Ignores

theorem put {β : Type} {change : Node → Node} (ignores : Ignores read change) (f : α → β) :
    Ignores (fun node => do return f (← read node)) change := by
  intro node sound
  simp only [ignores node sound]

theorem readItems_map {change : Node → Node} (ignores : Ignores read change) {ending : Ending} :
    ∀ items : List (Item Node), (∀ item ∈ items, item.value.fault? = none) →
      readItems read ending (items.map fun item => { item with value := change item.value }) =
        readItems read ending items
  | [], _ => rfl
  | item :: items, sound => by
    obtain ⟨first, rest⟩ := List.forall_mem_cons.1 sound
    rw [List.map_cons, readItems, readItems, ignores item.value first, ignores.readItems_map items rest]

theorem list {change : Node → Node} (ignores : Ignores read change) : Ignores (asList read) (mapList change) := by
  intro node sound
  cases node with
  | list line items ending => exact ignores.readItems_map items (fault?_list_eq_none_iff.1 sound).1
  | _ => rfl

/-- A change of the items does not make a list missing. -/
theorem optional {change : Node → Node} (ignores : Ignores read (mapList change)) :
    Ignores (Node.optional read) (mapList change) := by
  intro node sound
  cases node with
  | list => exact congrArg (some <$> ·) (ignores _ sound)
  | _ => rfl

variable {shape : RecordShape} {set : String → Node → σ → Decoded σ} {change : String → Node → Node}

theorem fillMembers_map (ignores : ∀ field record, Ignores (set field · record) (change field)) {ending : Ending} :
    ∀ (members : List (Member Node)) (seen : List String) (record : σ),
      (∀ member ∈ members, member.value.fault? = none) →
        fillMembers shape set ending seen record
            (members.map fun member => { member with value := change member.key member.value }) =
          fillMembers shape set ending seen record members
  | [], _, _, _ => rfl
  | member :: members, seen, record, sound => by
    obtain ⟨first, rest⟩ := List.forall_mem_cons.1 sound
    have same : set member.key (change member.key member.value) record = set member.key member.value record :=
      ignores member.key record member.value first
    simp only [List.map_cons, fillMembers, same, fillMembers_map ignores members _ _ rest]

theorem fillItems_mapItems (ignores : ∀ field record, Ignores (set field · record) (change field)) {ending : Ending} :
    ∀ (fields : List String) (items : List (Item Node)) (record : σ), (∀ item ∈ items, item.value.fault? = none) →
      fillItems shape set ending record fields (mapItems change fields items) =
        fillItems shape set ending record fields items
  | [], _, _, _ => rfl
  | _ :: _, [], _, _ => rfl
  | field :: fields, item :: items, record, sound => by
    obtain ⟨first, rest⟩ := List.forall_mem_cons.1 sound
    have same : set field (change field item.value) record = set field item.value record :=
      ignores field record item.value first
    simp only [mapItems, fillItems, same, fillItems_mapItems ignores fields items _ rest]

/-- **A change makes no difference to a record** when it makes none to any field. -/
theorem record (ignores : ∀ field record, Ignores (set field · record) (change field)) (start : σ) :
    Ignores (asRecord shape set start) (mapRecord shape change) := by
  intro node sound
  cases node with
  | object line members ending =>
    exact fillMembers_map ignores members [] start (fault?_object_eq_none_iff.1 sound).1
  | list line items ending =>
    exact fillItems_mapItems ignores shape.fields items start (fault?_list_eq_none_iff.1 sound).1
  | _ => rfl

end Ignores

end Json.Node

open Json.Node

/-! ## Keys -/

namespace KeySpec

def names : List String := ["label", "more_keys"]

/-- A key with nothing but the members of names that count. -/
def trimmed : Json.Node → Json.Node
  | .object line members ending => .object line (members.filter (names.contains ·.key)) ending
  | node => node

theorem filter_trimmed (members : List (Json.Member Json.Node)) {name : String} (counts : name ∈ names) :
    (members.filter (names.contains ·.key)).filter (·.key == name) = members.filter (·.key == name) := by
  rw [List.filter_filter]
  refine List.filter_congr fun member _ => ?_
  by_cases same : member.key = name
  · simp [same, counts]
  · simp [same]

/-- **Other names are passed over in a key**, with their values. -/
theorem ignores_trimmed : Ignores ofNode trimmed := by
  intro node sound
  cases node with
  | object line members ending =>
    obtain ⟨values, closed⟩ := fault?_object_eq_none_iff.1 sound
    have kept : (trimmed (.object line members ending)).fault? = none :=
      fault?_object_eq_none_iff.2 ⟨fun member there => values member (List.mem_filter.1 there).1, closed⟩
    have same : ofSound? (trimmed (.object line members ending)) = ofSound? (.object line members ending) := by
      rw [trimmed, ofSound?, ofSound?, filter_trimmed members (by decide), filter_trimmed members (by decide)]
    rw [ofNode, ofNode, kept, sound, same]
  | _ => rfl

end KeySpec

/-! ## Definitions -/

namespace Definition

/-- The tree of a definition with the keys of its rows trimmed. -/
def trimmed (root : Json.Node) : Json.Node :=
  mapRecord shape
    (fun field => if field = "phone_rows" ∨ field = "tablet_rows" then mapList (mapList KeySpec.trimmed) else id) root

theorem ignores_trimmed : Ignores ofNode trimmed := by
  have rows : Ignores rowsOfNode (mapList (mapList KeySpec.trimmed)) := KeySpec.ignores_trimmed.list.list
  refine .record (fun field d => ?_) _
  by_cases phone : field = "phone_rows"
  · subst phone
    exact rows.put _
  · by_cases tablet : field = "tablet_rows"
    · subst tablet
      exact rows.optional.put _
    · rw [if_neg (not_or.2 ⟨phone, tablet⟩)]
      exact fun _ _ => rfl

theorem exists_fault_of_not_accepted {text : String} (refused : ∀ d, ofText text ≠ .ok d) :
    ∃ fault, ofText text = .error (.json fault none) := by
  rw [ofText] at refused ⊢
  cases read : Json.decodeText ofNode text with
  | ok d => exact absurd (by rw [read]; rfl) (refused d)
  | error fault => exact ⟨fault, rfl⟩

section

variable {text : String} {d : Definition} (accepted : ofText text = .ok d)
include accepted

theorem mem_fields_of_accepted : ∀ entry ∈ (Json.Document.ofText text).root.given shape, entry.1 ∈ shape.fields := by
  intro entry there
  exact (of_asRecord_eq_ok (ofText_eq_ok_iff.1 accepted).2 entry there).1

theorem mem_policy_fields_of_accepted {policy : Json.Node}
    (there : ("customizer", policy) ∈ (Json.Document.ofText text).root.given shape) :
    ∀ entry ∈ policy.given Policy.shape, entry.1 ∈ Policy.shape.fields := by
  intro entry within
  obtain ⟨before, after, put⟩ := (of_asRecord_eq_ok (ofText_eq_ok_iff.1 accepted).2 _ there).2
  obtain ⟨p, read, -⟩ := bind_eq_ok_iff.1 put
  exact (of_asRecord_eq_ok read entry within).1

end

/-- **Unknown names are refused in a definition and in its policy, and passed over in a key.**  A text is accepted exactly
if all of it is JSON and the tree with trimmed keys is a definition. -/
theorem unknown_names_refused_but_in_keys (text : String) :
    let root := (Json.Document.ofText text).root
    (∀ entry ∈ root.given shape, entry.1 ∉ shape.fields → ∃ fault, ofText text = .error (.json fault none)) ∧
    (∀ policy, ("customizer", policy) ∈ root.given shape →
      ∀ entry ∈ policy.given Policy.shape, entry.1 ∉ Policy.shape.fields →
        ∃ fault, ofText text = .error (.json fault none)) ∧
    ∀ d, ofText text = .ok d ↔ (Json.Document.ofText text).fault? = none ∧ ofNode (trimmed root) = .ok d := by
  intro root
  refine ⟨fun entry there unknown => ?_, fun policy there entry within unknown => ?_, fun d => ?_⟩
  · apply exists_fault_of_not_accepted
    intro d accepted
    exact unknown (mem_fields_of_accepted accepted entry there)
  · apply exists_fault_of_not_accepted
    intro d accepted
    exact unknown (mem_policy_fields_of_accepted accepted there entry within)
  · rw [ofText_eq_ok_iff]
    refine and_congr_right fun sound => ?_
    rw [ignores_trimmed root (Option.or_eq_none_iff.1 sound).1]

/-- A misspelt field, a misspelt setting of the policy, and a misspelt offer of a key, which is lost. -/
theorem unknown_names_refused_but_in_keys_of_misspelt :
    let field : Json := .object [("name", .text "x"), ("phone_row", .list [])]
    let setting : Json := .object [("name", .text "x"), ("customizer", .object [("curency", .text "Euro")])]
    let offer : Json := .object [("name", .text "x"),
      ("phone_rows", .list [.list [.object [("label", .text "a"), ("more_kes", .list [.text "á"])]]])]
    (∃ fault, ofText field.compact = .error (.json fault none)) ∧
    (∃ fault, ofText setting.compact = .error (.json fault none)) ∧
    ofText offer.compact = .ok { unset with name := "x", phoneRows := [[.offering "a" []]] } := by
  intro field setting offer
  have inField : ∃ entry ∈ (Json.Document.ofText field.compact).root.given shape, entry.1 ∉ shape.fields := by
    decide +kernel +zetaReduce
  have inSetting : ∃ entry ∈ (Json.Document.ofText setting.compact).root.given shape,
      entry.1 = "customizer" ∧ ∃ inner ∈ entry.2.given Policy.shape, inner.1 ∉ Policy.shape.fields := by
    decide +kernel +zetaReduce
  refine ⟨?_, ?_, ?_⟩
  · obtain ⟨entry, there, unknown⟩ := inField
    exact (unknown_names_refused_but_in_keys _).1 entry there unknown
  · obtain ⟨⟨name, policy⟩, there, rfl, inner, within, unknown⟩ := inSetting
    exact (unknown_names_refused_but_in_keys _).2.1 policy there inner within unknown
  · refine ((unknown_names_refused_but_in_keys _).2.2 _).2 ⟨by decide +kernel +zetaReduce, ?_⟩
    rw [← toOption_eq_some_iff]
    decide +kernel +zetaReduce

end Definition

end ScreenKeyboard
