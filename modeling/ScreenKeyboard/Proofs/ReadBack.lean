import ScreenKeyboard.Json.Decode
import ScreenKeyboard.Proofs.WrittenText
/-!
# Reading back what was written

A way to read and a way to write go together when every value is read back as it was (`Faithful`).  Lists, maps, choices
and records are read back when their parts are.  A record is written as the object of its fields in order, some of which
are left out because they are open; reading it back sets one field after the other (`Fills`).
-/
namespace ScreenKeyboard

/-! ## Letter maps -/

namespace LetterMap

variable {α : Type}

/-- A text that comes after all others is put at the end. -/
theorem insertEntry_of_last (letter : String) (value : α) : ∀ es : List (String × α), (∀ e ∈ es, e.1 < letter) →
    insertEntry letter value es = es ++ [(letter, value)]
  | [], _ => rfl
  | e :: es, h => by
    obtain ⟨he, hes⟩ := List.forall_mem_cons.1 h
    have differs : ¬ letter = e.1 := fun same => String.lt_irrefl e.1 (same ▸ he)
    rw [insertEntry, if_neg (String.lt_asymm he), if_neg differs, insertEntry_of_last letter value es hes,
      List.cons_append]

theorem entries_foldl_insert : ∀ (es : List (String × α)) (m : LetterMap α),
    (m.entries ++ es).Pairwise (fun a b => a.1 < b.1) →
      (es.foldl (fun m e => m.insert e.1 e.2) m).entries = m.entries ++ es
  | [], m, _ => (List.append_nil _).symm
  | e :: es, m, sorted => by
    have last : ∀ d ∈ m.entries, d.1 < e.1 := fun d hd => (List.pairwise_append.1 sorted).2.2 d hd e List.mem_cons_self
    have inserted : (m.insert e.1 e.2).entries = m.entries ++ [e] := insertEntry_of_last e.1 e.2 m.entries last
    rw [List.foldl_cons, entries_foldl_insert es _ (by rw [inserted, List.append_assoc]; exact sorted), inserted,
      List.append_assoc, List.singleton_append]

theorem ofList_entries (m : LetterMap α) : ofList m.entries = m :=
  ext (entries_foldl_insert m.entries empty m.sorted)

end LetterMap

namespace Json.Node

variable {α σ : Type}

/-! ## Values -/

mutual

theorem fault?_ofJson : ∀ v : Json, (ofJson v).fault? = none
  | .null => rfl
  | .bool _ => rfl
  | .int _ => rfl
  | .text _ => rfl
  | .list items => by
    rw [ofJson, fault?, itemsFault?_ofItems items]
    rfl
  | .object members => by
    rw [ofJson, fault?, membersFault?_ofMembers members]
    rfl

theorem itemsFault?_ofItems : ∀ items : List Json, itemsFault? (ofItems items) = none
  | [] => rfl
  | x :: xs => by
    rw [ofItems, itemsFault?, fault?_ofJson x, itemsFault?_ofItems xs]
    rfl

theorem membersFault?_ofMembers : ∀ members : List (String × Json), membersFault? (ofMembers members) = none
  | [] => rfl
  | (_, x) :: ms => by
    rw [ofMembers, membersFault?, fault?_ofJson x, membersFault?_ofMembers ms]
    rfl

end

/-- **What is written is read back.**  Nothing is written as `null`, which would be taken for a value that is missing, and
nothing is nested deeper than so many levels. -/
structure Faithful (room : Nat) (read : Node → Decoded α) (write : α → Json) : Prop where
  notNull : ∀ a, write a ≠ .null
  nests : ∀ a, Nests room (write a)
  reads : ∀ a, read (ofJson (write a)) = .ok a

theorem faithful_text {room : Nat} : Faithful room asText .text := ⟨nofun, .text, fun _ => rfl⟩

theorem faithful_bool {room : Nat} : Faithful room asBool .bool := ⟨nofun, .bool, fun _ => rfl⟩

theorem faithful_choice {room : Nat} {choices : List (String × α)} {name : α → String}
    (h : ∀ a, choices.lookup (name a) = some a) : Faithful room (asChoice choices) (fun a => .text (name a)) where
  notNull := nofun
  nests _ := .text _
  reads a := by rw [ofJson, asChoice, chosen, h]

namespace Faithful

variable {room : Nat} {read : Node → Decoded α} {write : α → Json}

theorem optional_ofJson (faithful : Faithful room read write) (a : α) :
    optional read (ofJson (write a)) = .ok (some a) := by
  rw [← show some <$> read (ofJson (write a)) = .ok (some a) by rw [faithful.reads a]; rfl]
  cases h : write a with
  | null => exact absurd h (faithful.notNull a)
  | _ => rfl

theorem readItems_ofItems (faithful : Faithful room read write) : ∀ values : List α,
    readItems read (.closed 1) (ofItems (values.map write)) = .ok values
  | [] => rfl
  | a :: values => by
    rw [List.map_cons, ofItems, readItems, faithful.reads a, faithful.readItems_ofItems values]
    rfl

/-- **A list is read back** when its items are. -/
theorem list (faithful : Faithful room read write) :
    Faithful (room + 1) (asList read) (fun values => .list (values.map write)) where
  notNull := nofun
  nests values := .list fun x hx => by
    obtain ⟨a, -, rfl⟩ := List.mem_map.1 hx
    exact faithful.nests a
  reads values := by
    rw [ofJson, asList]
    exact faithful.readItems_ofItems values

theorem readMembers_ofMembers (faithful : Faithful room read write) : ∀ entries : List (String × α),
    readMembers read (.closed 1) (ofMembers (entries.map fun e => (e.1, write e.2))) = .ok entries
  | [] => rfl
  | e :: entries => by
    rw [List.map_cons, ofMembers, readMembers, faithful.reads e.2, faithful.readMembers_ofMembers entries]
    rfl

/-- **A map is read back** when its values are. -/
theorem map (faithful : Faithful room read write) :
    Faithful (room + 1) (asMap read) (fun m => .object (m.entries.map fun e => (e.1, write e.2))) where
  notNull := nofun
  nests m := .object fun member hm => by
    obtain ⟨e, -, rfl⟩ := List.mem_map.1 hm
    exact faithful.nests e.2
  reads m := by
    rw [ofJson, asMap, faithful.readMembers_ofMembers m.entries]
    exact congrArg Except.ok m.ofList_entries

end Faithful

/-! ## Records -/

/-- **What the members of an object make of a record**, field by field: at each field there is a member of that name,
which is put into the record, or none, which leaves the record as it is. -/
inductive Fills (room : Nat) (shape : RecordShape) (set : String → Node → σ → Decoded σ) :
    List String → σ → List (Option (String × Json)) → σ → Prop
  | done (record : σ) : Fills room shape set [] record [] record
  | skip {field : String} {fields : List String} {record result : σ} {members : List (Option (String × Json))}
    (free : field ∉ shape.required) (rest : Fills room shape set fields record members result) :
    Fills room shape set (field :: fields) record (none :: members) result
  | put {field : String} {fields : List String} {record next result : σ} {members : List (Option (String × Json))}
    {x : Json} (nests : Nests room x) (sets : set field (ofJson x) record = .ok next)
    (rest : Fills room shape set fields next members result) :
    Fills room shape set (field :: fields) record (some (field, x) :: members) result

namespace Fills

variable {room : Nat} {shape : RecordShape} {set : String → Node → σ → Decoded σ} {fields : List String}
  {record result : σ} {members : List (Option (String × Json))}

theorem nests (fills : Fills room shape set fields record members result) : Nests (room + 1) (.ofMembers members) := by
  refine .object fun m hm => ?_
  induction fills with
  | done => cases hm
  | skip _ _ ih => exact ih hm
  | put nests _ _ ih =>
    rcases List.mem_cons.1 hm with rfl | hm
    · exact nests
    · exact ih hm

/-- The members are put into the record one after the other: each has a field of its own, and when all fields are passed
those that are required have been given. -/
theorem fillMembers_eq_ok (fills : Fills room shape set fields record members result)
    (known : ∀ field ∈ fields, field ∈ shape.fields) (distinct : fields.Nodup) :
    ∀ seen : List String, (∀ field ∈ fields, field ∉ seen) →
      (∀ field ∈ shape.required, field ∈ seen ∨ field ∈ fields) →
      fillMembers shape set (.closed 1) seen record (ofMembers (members.filterMap id)) = .ok result := by
  induction fills with
  | done =>
    intro seen _ complete
    have nothing : shape.required.find? (fun field => !seen.contains field) = none := by
      rw [List.find?_eq_none]
      intro field hf
      simpa using complete field hf
    rw [List.filterMap_nil, ofMembers, fillMembers, nothing]
  | skip free _ ih =>
    intro seen fresh complete
    refine ih (fun f hf => known f (List.mem_cons_of_mem _ hf)) (List.nodup_cons.1 distinct).2 seen
      (fun f hf => fresh f (List.mem_cons_of_mem _ hf)) fun f hf => ?_
    rcases complete f hf with given | later
    · exact .inl given
    · rcases List.mem_cons.1 later with rfl | later
      · exact absurd hf free
      · exact .inr later
  | @put field fields record next result members x nests sets rest ih =>
    intro seen fresh complete
    obtain ⟨fieldKnown, known⟩ := List.forall_mem_cons.1 known
    obtain ⟨fieldFresh, fresh⟩ := List.forall_mem_cons.1 fresh
    obtain ⟨once, distinct⟩ := List.nodup_cons.1 distinct
    have fresh' : ∀ f ∈ fields, f ∉ field :: seen := by
      intro f hf again
      rcases List.mem_cons.1 again with rfl | old
      · exact once hf
      · exact fresh f hf old
    have complete' : ∀ f ∈ shape.required, f ∈ field :: seen ∨ f ∈ fields := by
      intro f hf
      rcases complete f hf with given | later
      · exact .inl (List.mem_cons_of_mem _ given)
      · rcases List.mem_cons.1 later with rfl | later
        · exact .inl List.mem_cons_self
        · exact .inr later
    have isKnown : shape.fields.contains field = true := by simpa using fieldKnown
    have isNew : seen.contains field = false := by simpa using fieldFresh
    rw [List.filterMap_cons_some (f := id) rfl, ofMembers, fillMembers, isKnown, isNew, sets]
    exact ih known distinct (field :: seen) fresh' complete'

variable {read : Node → Decoded α} {write : α → Json} {field : String}

theorem always (put : σ → α → σ) (faithful : Faithful room read write)
    (sets : ∀ node, set field node record = do return put record (← read node)) (a : α)
    (rest : Fills room shape set fields (put record a) members result) :
    Fills room shape set (field :: fields) record (some (field, write a) :: members) result :=
  .put (faithful.nests a) (by rw [sets, faithful.reads a]; rfl) rest

/-- A field that may be open is read back; it must be open before. -/
theorem optional (put : σ → Option α → σ) (free : field ∉ shape.required) (faithful : Faithful room read write)
    (sets : ∀ node, set field node record = do return put record (← Node.optional read node))
    (opened : put record none = record) (value : Option α)
    (rest : Fills room shape set fields (put record value) members result) :
    Fills room shape set (field :: fields) record (value.map (fun a => (field, write a)) :: members) result := by
  cases value with
  | none => exact .skip free (opened ▸ rest)
  | some a => exact .put (faithful.nests a) (by rw [sets, faithful.optional_ofJson a]; rfl) rest

end Fills

/-- **A record is read back** when it is written as members that fill its fields, from the record that says nothing. -/
theorem faithful_record {room : Nat} {shape : RecordShape} {set : String → Node → σ → Decoded σ} {start : σ}
    {write : σ → Json} (distinct : shape.fields.Nodup) (listed : ∀ field ∈ shape.required, field ∈ shape.fields)
    (fills : ∀ record, ∃ members, write record = .ofMembers members ∧
      Fills room shape set shape.fields start members record) :
    Faithful (room + 1) (asRecord shape set start) write where
  notNull record := by
    obtain ⟨members, written, -⟩ := fills record
    rw [written]
    exact nofun
  nests record := by
    obtain ⟨members, written, filled⟩ := fills record
    rw [written]
    exact filled.nests
  reads record := by
    obtain ⟨members, written, filled⟩ := fills record
    rw [written, Json.ofMembers, ofJson, asRecord]
    exact filled.fillMembers_eq_ok (fun _ h => h) distinct [] (fun _ _ => List.not_mem_nil)
      fun field required => .inr (listed field required)

end Json.Node

end ScreenKeyboard
