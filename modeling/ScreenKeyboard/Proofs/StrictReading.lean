import ScreenKeyboard.Definition.Format
import ScreenKeyboard.Proofs.Steps
/-!
# Only sound text is read

No reader looks at the whole text first: what is wrong with it is met on the way, so a fault could be missed.  None is.
A way to read is strict when it accepts no node that has a fault anywhere; lists, maps, choices and records are read
strictly when their parts are, and so are definitions (`Definition.ofText_eq_ok_iff`).  For records this is so because
all that an accepted record was given went into one of its fields (`of_asRecord_eq_ok`).
-/
namespace ScreenKeyboard

namespace Json.Node

variable {α σ : Type} {read : Node → Decoded α}

theorem itemsFault?_eq_none_iff : ∀ {items : List (Item Node)},
    itemsFault? items = none ↔ ∀ item ∈ items, item.value.fault? = none
  | [] => by simp [itemsFault?]
  | ⟨value, after⟩ :: items => by
    rw [itemsFault?, Option.or_eq_none_iff, List.forall_mem_cons, itemsFault?_eq_none_iff]

theorem membersFault?_eq_none_iff : ∀ {members : List (Member Node)},
    membersFault? members = none ↔ ∀ member ∈ members, member.value.fault? = none
  | [] => by simp [membersFault?]
  | ⟨line, key, keyEnd, value, after⟩ :: members => by
    rw [membersFault?, Option.or_eq_none_iff, List.forall_mem_cons, membersFault?_eq_none_iff]

theorem fault?_list_eq_none_iff {line : Nat} {items : List (Item Node)} {ending : Ending} :
    (Node.list line items ending).fault? = none ↔
      (∀ item ∈ items, item.value.fault? = none) ∧ endingFault? ending = none := by
  rw [fault?, Option.or_eq_none_iff, itemsFault?_eq_none_iff]

theorem fault?_object_eq_none_iff {line : Nat} {members : List (Member Node)} {ending : Ending} :
    (Node.object line members ending).fault? = none ↔
      (∀ member ∈ members, member.value.fault? = none) ∧ endingFault? ending = none := by
  rw [fault?, Option.or_eq_none_iff, membersFault?_eq_none_iff]

/-! ## Records -/

/-- What a node gives to the fields of a record: the members of an object by their names, the items of a list by their
places. -/
def given (shape : RecordShape) : Node → List (String × Node)
  | .object _ members _ => members.map fun member => (member.key, member.value)
  | .list _ items _ => shape.fields.zip (items.map Item.value)
  | _ => []

section

variable {shape : RecordShape} {set : String → Node → σ → Decoded σ} {ending : Ending} {record result : σ}

theorem fillMembers_cons_eq_ok_iff {seen : List String} {member : Member Node} {members : List (Member Node)} :
    fillMembers shape set ending seen record (member :: members) = .ok result ↔
      member.key ∈ shape.fields ∧ member.key ∉ seen ∧ ∃ next, set member.key member.value record = .ok next ∧
        fillMembers shape set ending (member.key :: seen) next members = .ok result := by
  rw [fillMembers]
  by_cases known : member.key ∈ shape.fields
  · by_cases again : member.key ∈ seen
    · simp [known, again]
    · simp [known, again, bind_eq_ok_iff, Decoded.orAt, mapError_eq_ok_iff]
  · simp [known]

theorem fillItems_cons_eq_ok_iff {field : String} {fields : List String} {item : Item Node}
    {items : List (Item Node)} :
    fillItems shape set ending record (field :: fields) (item :: items) = .ok result ↔
      ∃ next, set field item.value record = .ok next ∧ fillItems shape set ending next fields items = .ok result := by
  simp [fillItems, bind_eq_ok_iff, Decoded.orAt, mapError_eq_ok_iff]

theorem of_fillMembers_eq_ok : ∀ {members : List (Member Node)} {seen : List String} {record : σ},
    fillMembers shape set ending seen record members = .ok result →
      (∀ member ∈ members, member.key ∈ shape.fields ∧
        ∃ before after, set member.key member.value before = .ok after) ∧ endingFault? ending = none
  | [], seen, record, h => by
    refine ⟨nofun, ?_⟩
    cases ending with
    | closed => rfl
    | broken => cases h
  | member :: members, seen, record, h => by
    obtain ⟨known, -, next, put, rest⟩ := fillMembers_cons_eq_ok_iff.1 h
    obtain ⟨others, closed⟩ := of_fillMembers_eq_ok rest
    exact ⟨List.forall_mem_cons.2 ⟨⟨known, record, next, put⟩, others⟩, closed⟩

theorem of_fillItems_eq_ok : ∀ {fields : List String} {items : List (Item Node)} {record : σ},
    fillItems shape set ending record fields items = .ok result →
      (∀ entry ∈ fields.zip (items.map Item.value), ∃ before after, set entry.1 entry.2 before = .ok after) ∧
        items.length ≤ fields.length ∧ endingFault? ending = none
  | [], [], record, h => by
    refine ⟨nofun, Nat.le_refl 0, ?_⟩
    cases ending with
    | closed => rfl
    | broken fault =>
      obtain ⟨cause, line⟩ := fault
      cases cause <;> cases h
  | [], item :: items, record, h => by cases h
  | field :: fields, [], record, h => by
    refine ⟨nofun, Nat.zero_le _, ?_⟩
    cases ending with
    | closed => rfl
    | broken => cases h
  | field :: fields, item :: items, record, h => by
    obtain ⟨next, put, rest⟩ := fillItems_cons_eq_ok_iff.1 h
    obtain ⟨others, short, closed⟩ := of_fillItems_eq_ok rest
    exact ⟨List.forall_mem_cons.2 ⟨⟨record, next, put⟩, others⟩, Nat.succ_le_succ short, closed⟩

/-- **An accepted record was given fields that it has, and a value for each that the field accepts.** -/
theorem of_asRecord_eq_ok {start : σ} {node : Node} (h : asRecord shape set start node = .ok result) :
    ∀ entry ∈ node.given shape, entry.1 ∈ shape.fields ∧
      ∃ before after, set entry.1 entry.2 before = .ok after := by
  cases node with
  | object line members ending =>
    intro entry hentry
    obtain ⟨member, there, rfl⟩ := List.mem_map.1 hentry
    exact (of_fillMembers_eq_ok h).1 member there
  | list line items ending =>
    intro entry hentry
    exact ⟨(List.of_mem_zip hentry).1, (of_fillItems_eq_ok h).1 entry hentry⟩
  | scalar => nofun
  | broken => nofun

end

/-! ## Strictness -/

/-- No node is accepted that has a fault anywhere in its text. -/
def Strict (read : Node → Decoded α) : Prop := ∀ node value, read node = .ok value → node.fault? = none

theorem strict_asText : Strict asText := by
  intro node value h
  cases node with
  | scalar => rfl
  | _ => cases h

theorem strict_asBool : Strict asBool := by
  intro node value h
  cases node with
  | scalar => rfl
  | _ => cases h

theorem strict_asNull : Strict asNull := by
  intro node value h
  cases node with
  | scalar => rfl
  | _ => cases h

theorem strict_asChoice {choices : List (String × α)} : Strict (asChoice choices) := by
  intro node value h
  cases node with
  | scalar => rfl
  | list => cases h
  | broken =>
    rw [asChoice] at h
    split at h <;> cases h
  | object line members ending =>
    cases members with
    | nil => cases ending <;> cases h
    | cons member members =>
      obtain ⟨choice, -, h⟩ := bind_eq_ok_iff.1 h
      obtain ⟨⟨⟩, nothing, h⟩ := bind_eq_ok_iff.1 h
      obtain ⟨⟨⟩, alone, -⟩ := bind_eq_ok_iff.1 h
      rw [closeChoice.eq_def] at alone
      split at alone
      · exact fault?_object_eq_none_iff.2 ⟨List.forall_mem_singleton.2 (strict_asNull _ _ nothing), rfl⟩
      · cases alone
      · cases alone

theorem endingFault?_of_asEnd {ending : Ending} (h : asEnd ending = .ok ()) : endingFault? ending = none := by
  cases ending with
  | closed => rfl
  | broken => cases h

namespace Strict

/-- What is done with the value that was read does not matter. -/
theorem put {β : Type} (strict : Strict read) (f : α → β) : Strict fun node => do return f (← read node) := by
  intro node value h
  obtain ⟨a, accepted, -⟩ := bind_eq_ok_iff.1 h
  exact strict node a accepted

theorem optional (strict : Strict read) : Strict (Node.optional read) := by
  intro node value h
  cases node with
  | scalar => rfl
  | broken line lead fault =>
    rw [Node.optional] at h
    split at h
    · cases h
    · obtain ⟨a, accepted, -⟩ := map_eq_ok_iff.1 h
      exact strict _ a accepted
  | _ =>
    obtain ⟨a, accepted, -⟩ := map_eq_ok_iff.1 h
    exact strict _ a accepted

theorem of_readItems (strict : Strict read) {ending : Ending} : ∀ {items : List (Item Node)} {values : List α},
    readItems read ending items = .ok values →
      (∀ item ∈ items, item.value.fault? = none) ∧ endingFault? ending = none
  | [], values, h => by
    obtain ⟨⟨⟩, closed, -⟩ := map_eq_ok_iff.1 h
    exact ⟨nofun, endingFault?_of_asEnd closed⟩
  | item :: items, values, h => by
    obtain ⟨value, first, h⟩ := bind_eq_ok_iff.1 h
    obtain ⟨others, rest, -⟩ := bind_eq_ok_iff.1 h
    obtain ⟨sound, closed⟩ := strict.of_readItems rest
    exact ⟨List.forall_mem_cons.2 ⟨strict _ value (mapError_eq_ok_iff.1 first), sound⟩, closed⟩

theorem of_readMembers (strict : Strict read) {ending : Ending} :
    ∀ {members : List (Member Node)} {entries : List (String × α)}, readMembers read ending members = .ok entries →
      (∀ member ∈ members, member.value.fault? = none) ∧ endingFault? ending = none
  | [], entries, h => by
    obtain ⟨⟨⟩, closed, -⟩ := map_eq_ok_iff.1 h
    exact ⟨nofun, endingFault?_of_asEnd closed⟩
  | member :: members, entries, h => by
    obtain ⟨value, first, h⟩ := bind_eq_ok_iff.1 h
    obtain ⟨others, rest, -⟩ := bind_eq_ok_iff.1 h
    obtain ⟨sound, closed⟩ := strict.of_readMembers rest
    exact ⟨List.forall_mem_cons.2 ⟨strict _ value (mapError_eq_ok_iff.1 first), sound⟩, closed⟩

theorem list (strict : Strict read) : Strict (asList read) := by
  intro node value h
  cases node with
  | list line items ending => exact fault?_list_eq_none_iff.2 (strict.of_readItems h)
  | _ => cases h

theorem map (strict : Strict read) : Strict (asMap read) := by
  intro node value h
  cases node with
  | object line members ending =>
    obtain ⟨entries, accepted, -⟩ := map_eq_ok_iff.1 h
    exact fault?_object_eq_none_iff.2 (strict.of_readMembers accepted)
  | _ => cases h

/-- A record has no field that would accept a fault, and nothing in it is left unread. -/
theorem record {shape : RecordShape} {set : String → Node → σ → Decoded σ}
    (strict : ∀ field ∈ shape.fields, ∀ record, Strict fun node => set field node record) (start : σ) :
    Strict (asRecord shape set start) := by
  intro node result h
  cases node with
  | object line members ending =>
    obtain ⟨accepted, closed⟩ := of_fillMembers_eq_ok h
    refine fault?_object_eq_none_iff.2 ⟨fun member there => ?_, closed⟩
    obtain ⟨known, before, after, put⟩ := accepted member there
    exact strict _ known before _ after put
  | list line items ending =>
    obtain ⟨accepted, short, closed⟩ := of_fillItems_eq_ok h
    refine fault?_list_eq_none_iff.2 ⟨fun item there => ?_, closed⟩
    obtain ⟨i, hi, rfl⟩ := List.mem_iff_getElem.1 there
    -- the item stands at the place of a field
    have entry : (shape.fields[i], items[i].value) ∈ shape.fields.zip (items.map Item.value) := by
      rw [List.mem_iff_getElem]
      refine ⟨i, ?_, ?_⟩
      · rw [List.length_zip, List.length_map]
        omega
      · rw [List.getElem_zip, List.getElem_map]
    obtain ⟨before, after, put⟩ := accepted _ entry
    exact strict _ (List.getElem_mem _) before _ after put
  | _ => cases h

end Strict

end Json.Node

open Json.Node

/-! ## Definitions -/

theorem Locale.strict_ofNode : Strict Locale.ofNode := by
  intro node locale h
  obtain ⟨tag, accepted, -⟩ := bind_eq_ok_iff.1 h
  exact strict_asText node tag accepted

theorem KeySpec.strict_ofNode : Strict KeySpec.ofNode := by
  intro node key h
  rw [KeySpec.ofNode] at h
  split at h
  · cases h
  · assumption

theorem strict_rowsOfNode : Strict rowsOfNode := KeySpec.strict_ofNode.list.list

theorem Policy.strict_ofNode : Strict Policy.ofNode := by
  refine .record (fun field known p => ?_) _
  simp only [shape, List.mem_cons, List.not_mem_nil, or_false] at known
  obtain rfl | rfl | rfl | rfl | rfl | rfl | rfl | rfl := known
  · exact strict_asChoice.optional.put _
  · exact strict_asChoice.optional.put _
  · exact strict_asChoice.optional.put _
  · exact strict_asChoice.optional.put _
  · exact strict_asChoice.optional.put _
  · exact strict_asBool.optional.put _
  · exact strict_asText.list.map.optional.put _
  · exact strict_asText.list.optional.put _

namespace Definition

theorem strict_ofNode : Strict ofNode := by
  refine .record (fun field known d => ?_) _
  simp only [shape, List.mem_cons, List.not_mem_nil, or_false] at known
  obtain rfl | rfl | rfl | rfl | rfl | rfl | rfl := known
  · exact strict_asText.put _
  · exact Locale.strict_ofNode.optional.put _
  · exact strict_asText.optional.put _
  · exact strict_rowsOfNode.put _
  · exact strict_rowsOfNode.optional.put _
  · exact strict_asBool.optional.put _
  · exact Policy.strict_ofNode.put _

/-- **A text is accepted exactly if it is sound and its tree is a definition.** -/
theorem ofText_eq_ok_iff {text : String} {d : Definition} :
    ofText text = .ok d ↔
      (Json.Document.ofText text).fault? = none ∧ ofNode (Json.Document.ofText text).root = .ok d := by
  rw [ofText, mapError_eq_ok_iff, Json.decodeText, Json.Document.read, bind_eq_ok_iff, Json.Document.fault?,
    Option.or_eq_none_iff]
  constructor
  · rintro ⟨read, accepted, ended⟩
    split at ended
    · cases ended
    · rename_i complete
      cases ended
      exact ⟨⟨strict_ofNode _ _ accepted, complete⟩, accepted⟩
  · rintro ⟨⟨-, complete⟩, accepted⟩
    exact ⟨d, accepted, by rw [complete]; rfl⟩

end Definition

end ScreenKeyboard
