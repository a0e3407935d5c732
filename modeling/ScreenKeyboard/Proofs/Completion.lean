import ScreenKeyboard.Proofs.Ancestors
/-!
# Completing in any grouping

To complete a child by its parent is associative, and the definition that says nothing changes nothing by it but the
name of a parent (`completedBy_assoc`).  Only tablet rows need a look for this, as it is the phone rows of a child that
keep those of its parent away.  So a lineage makes the same definition from the child up as from the root down, and any
part of it can be made one definition first: where that one is loaded in the place of the part, what is resolved stays
the same (`completing_in_any_grouping`).
-/
namespace ScreenKeyboard.Definition

/-! ## Laws of completing -/

/-- A field that counts as unset where it is empty is taken from the nearest of three, however they are grouped. -/
theorem ite_empty_assoc {α : Type} [DecidableEq α] (empty a b c : α) :
    (if (if a = empty then b else a) = empty then c else if a = empty then b else a) =
      if a = empty then (if b = empty then c else b) else a := by
  by_cases h : a = empty
  · rw [if_pos h, if_pos h]
  · rw [if_neg h, if_neg h, if_neg h]

theorem tabletRows_completedBy_assoc (a b c : Definition) :
    ((a.completedBy b).completedBy c).tabletRows = (a.completedBy (b.completedBy c)).tabletRows := by
  unfold completedBy
  dsimp only
  by_cases own : a.phoneRows = []
  · rw [if_pos own, if_pos own, if_pos own]
    -- Without phone rows below it, the one in the middle decides what comes down from above.
    by_cases next : b.phoneRows = []
    · rw [if_pos next, if_pos next, Option.or_assoc]
    · rw [if_neg next, if_neg next]
  · rw [if_neg own, if_neg own, if_neg own, if_neg own]

/-- **Completing is associative.** -/
theorem completedBy_assoc (a b c : Definition) :
    (a.completedBy b).completedBy c = a.completedBy (b.completedBy c) := by
  have name := ite_empty_assoc "" a.name b.name c.name
  have phone := ite_empty_assoc [] a.phoneRows b.phoneRows c.phoneRows
  have tablet := tabletRows_completedBy_assoc a b c
  have policy := Policy.completedBy_assoc a.policy b.policy c.policy
  unfold completedBy at tablet ⊢
  rw [mk.injEq]
  exact ⟨name, Option.or_assoc, rfl, phone, tablet, Option.or_assoc, policy⟩

theorem completedBy_unset (a : Definition) : a.completedBy unset = { a with parent := none } := by
  have name : (if a.name = "" then "" else a.name) = a.name := by
    split
    · rename_i empty
      exact empty.symm
    · rfl
  have phone : (if a.phoneRows = [] then [] else a.phoneRows) = a.phoneRows := by
    split
    · rename_i none
      exact none.symm
    · rfl
  unfold completedBy unset
  rw [mk.injEq]
  exact ⟨name, Option.or_none, rfl, phone, by simp, Option.or_none, a.policy.completedBy_unset⟩

theorem unset_completedBy (a : Definition) : unset.completedBy a = { a with parent := none } := by
  unfold completedBy unset
  rw [mk.injEq]
  exact ⟨rfl, Option.none_or, rfl, rfl, Option.none_or, Option.none_or, a.policy.unset_completedBy⟩

/-! ## Lineages put together in other ways -/

theorem merged_append (next : Definition) (above : List Definition) : ∀ (d : Definition) (below : List Definition),
    merged d (below ++ next :: above) = (merged d below).completedBy (merged next above)
  | _, [] => rfl
  | d, e :: below => by
    rw [List.cons_append, merged, merged_append next above e below, ← completedBy_assoc]
    rfl

/-- **From the child up is the same as from the root down.** -/
theorem foldl_completedBy : ∀ (line : List Definition) (d : Definition), line.foldl completedBy d = merged d line
  | [], _ => rfl
  | next :: rest, d => by
    rw [List.foldl_cons, foldl_completedBy rest]
    cases rest with
    | nil => rfl
    | cons e above => exact completedBy_assoc d next (merged e above)

/-- One definition in the place of a part of a lineage, which may name any parent. -/
def flattened (first : Definition) (part : List Definition) (parent : Option String) : Definition :=
  { merged first part with parent }

/-- A part of a lineage can be made one definition first, whatever parent that one names, as long as something is above
it or below it. -/
theorem merged_flattened (first : Definition) (part : List Definition) (parent : Option String) :
    (∀ next above, merged (flattened first part parent) (next :: above) = merged first (part ++ next :: above)) ∧
    ∀ d below above, merged d (below ++ flattened first part parent :: above) =
      merged d (below ++ first :: (part ++ above)) := by
  have onward : ∀ next above,
      merged (flattened first part parent) (next :: above) = merged first (part ++ next :: above) := by
    intro next above
    rw [merged_append]
    rfl
  refine ⟨onward, fun d below above => ?_⟩
  rw [merged_append, merged_append]
  cases above with
  | nil =>
    rw [List.append_nil]
    rfl
  | cons next above => rw [onward]

theorem ofLineage_flattened {below above : List Definition} (more : below ++ above ≠ []) (first : Definition)
    (part : List Definition) (parent : Option String) :
    ofLineage (below ++ flattened first part parent :: above) = ofLineage (below ++ (first :: part) ++ above) := by
  obtain ⟨onward, inside⟩ := merged_flattened first part parent
  rw [List.append_assoc]
  cases below with
  | cons d below => exact inside d below above
  | nil =>
    cases above with
    | nil => exact absurd rfl more
    | cons next above => exact onward next above

/-! ## Lineages that are loaded -/

variable {load load' : String → Except Fault Definition} {d : Definition}

theorem top_append : ∀ (d : Definition) (below above : List (String × Definition)),
    top d (below ++ above) = top (top d below) above
  | _, [], _ => rfl
  | _, step :: below, above => top_append step.2 below above

theorem climb_append_iff {below above : List (String × Definition)} :
    Climb load d (below ++ above) ↔ Climb load d below ∧ Climb load (top d below) above := by
  induction below generalizing d with
  | nil => exact ⟨fun climb => ⟨.here d, climb⟩, fun both => both.2⟩
  | cons step below ih =>
    constructor
    · intro climb
      cases climb with
      | up named loaded rest =>
        obtain ⟨low, high⟩ := ih.1 rest
        exact ⟨.up named loaded low, high⟩
    · rintro ⟨low, high⟩
      cases low with
      | up named loaded rest => exact .up named loaded (ih.2 ⟨rest, high⟩)

theorem Climb.congr {steps : List (String × Definition)} (climb : Climb load d steps)
    (same : ∀ step ∈ steps, load' step.1 = load step.1) : Climb load' d steps := by
  induction climb with
  | here d => exact .here d
  | up named loaded _ ih =>
    obtain ⟨first, later⟩ := List.forall_mem_cons.1 same
    exact .up named (first.trans loaded) (ih later)

def nextName (steps : List (String × Definition)) : Option String := steps.head?.map Prod.fst

theorem parent_eq_nextName {steps : List (String × Definition)} (climb : Climb load d steps)
    (root : (top d steps).parent = none) : d.parent = nextName steps := by
  cases climb with
  | here => exact root
  | up named => exact named

/-- A way up from a definition is one from any other definition that names the same parent. -/
theorem Climb.of_parent_eq {e : Definition} {steps : List (String × Definition)} (climb : Climb load d steps)
    (same : e.parent = d.parent) : Climb load e steps := by
  cases climb with
  | here => exact .here e
  | up named loaded rest => exact .up (same.trans named) loaded rest

/-- The definition in the place of a part leads up to the same root. -/
theorem parent_top_flattened {first : Definition} {part above : List (String × Definition)}
    (climb : Climb load (top first part) above) (root : (top (top first part) above).parent = none) :
    (flattened first (part.map Prod.snd) (nextName above)).parent = (top first part).parent ∧
    (top (flattened first (part.map Prod.snd) (nextName above)) above).parent = none := by
  refine ⟨(parent_eq_nextName climb root).symm, ?_⟩
  cases above with
  | nil => rfl
  | cons step above => exact root

variable {origin : Option String} {r first : Definition} {name : String} {below part above : List (String × Definition)}

/-- A way up on which a part is loaded as one definition, under the name of its first and with the parent of its last. -/
theorem climb_flattened (climb : Climb load d (below ++ (name, first) :: (part ++ above)))
    (root : (top d (below ++ (name, first) :: (part ++ above))).parent = none)
    (loaded : load' name = .ok (flattened first (part.map Prod.snd) (nextName above)))
    (same : ∀ step ∈ below ++ above, load' step.1 = load step.1) :
    Climb load' d (below ++ (name, flattened first (part.map Prod.snd) (nextName above)) :: above) ∧
      (top d (below ++ (name, flattened first (part.map Prod.snd) (nextName above)) :: above)).parent = none := by
  -- The way up below the part, and the one above it, go on with the new definition between them.
  obtain ⟨low, rest⟩ := climb_append_iff.1 climb
  rw [top_append, top_cons, top_append] at root
  cases rest with
  | up named _ rest =>
    obtain ⟨-, high⟩ := climb_append_iff.1 rest
    obtain ⟨onward, root⟩ := parent_top_flattened high root
    have low' := low.congr fun step there => same step (List.mem_append_left _ there)
    have high' := high.congr fun step there => same step (List.mem_append_right _ there)
    refine ⟨climb_append_iff.2 ⟨low', .up named loaded (high'.of_parent_eq onward)⟩, ?_⟩
    rw [top_append]
    exact root

/-- **A part of a lineage can be loaded as one definition**: the same definition is resolved. -/
theorem resolve_of_flattened (resolved : resolve load origin d = .ok r)
    (climb : Climb load d (below ++ (name, first) :: (part ++ above)))
    (root : (top d (below ++ (name, first) :: (part ++ above))).parent = none)
    (loaded : load' name = .ok (flattened first (part.map Prod.snd) (nextName above)))
    (same : ∀ step ∈ below ++ above, load' step.1 = load step.1) : resolve load' origin d = .ok r := by
  obtain ⟨full, climb', new, few, root', rfl⟩ := exists_climb_of_resolve resolved
  obtain rfl := climb'.eq_of_root root' climb root
  obtain ⟨again, ends⟩ := climb_flattened climb root loaded same
  -- It asks for fewer names, in the same order.
  have fewer : ((below ++ (name, flattened first (part.map Prod.snd) (nextName above)) :: above).map Prod.fst).Sublist
      ((below ++ (name, first) :: (part ++ above)).map Prod.fst) := by
    simp only [List.map_append, List.map_cons]
    exact ((List.sublist_append_right _ _).cons_cons name).append_left _
  have outcome : Outcome load' origin d (.ok _) :=
    .complete again (new.sublist (fewer.append_left origin.toList)) (Nat.le_trans (by simp) few) ends
  obtain ⟨-, merges⟩ := merged_flattened first (part.map Prod.snd) (nextName above)
  rw [resolve_eq_iff]
  simp only [List.map_append, List.map_cons] at outcome ⊢
  rw [← merges]
  exact outcome

/-- **However a lineage is put together, it makes the same definition.**  Completing is associative, and the definition
that says nothing only takes the name of a parent away.  So a lineage can be put together from the child up, and any
part of it can be made one definition before.  What a definition is resolved to is what its lineage makes in any of
these ways, also when one definition is loaded in the place of the part. -/
theorem completing_in_any_grouping :
    (∀ a b c : Definition, (a.completedBy b).completedBy c = a.completedBy (b.completedBy c)) ∧
    (∀ a : Definition,
      a.completedBy unset = { a with parent := none } ∧ unset.completedBy a = { a with parent := none }) ∧
    (∀ (d : Definition) (line : List Definition), line.foldl completedBy d = ofLineage (d :: line)) ∧
    (∀ below first part above parent, below ++ above ≠ [] →
      ofLineage (below ++ flattened first part parent :: above) = ofLineage (below ++ (first :: part) ++ above)) ∧
    ∀ load origin d r, resolve load origin d = .ok r →
      ∃ steps, Climb load d steps ∧ (top d steps).parent = none ∧ r = (steps.map Prod.snd).foldl completedBy d ∧
        ∀ below name first part above, steps = below ++ (name, first) :: (part ++ above) →
          ∀ load', load' name = .ok (flattened first (part.map Prod.snd) (nextName above)) →
            (∀ step ∈ below ++ above, load' step.1 = load step.1) → resolve load' origin d = .ok r := by
  refine ⟨completedBy_assoc, fun a => ⟨a.completedBy_unset, a.unset_completedBy⟩,
    fun d line => foldl_completedBy line d,
    fun below first part above parent more => ofLineage_flattened more first part parent, ?_⟩
  intro load origin d r resolved
  obtain ⟨steps, climb, -, -, root, merges⟩ := exists_climb_of_resolve resolved
  refine ⟨steps, climb, root, merges.trans (foldl_completedBy _ d).symm, ?_⟩
  rintro below name first part above rfl load' loaded same
  exact resolve_of_flattened resolved climb root loaded same

/-- Two parents in between are loaded as one.  The nearer one has tablet rows alone and the farther one phone rows alone,
so together they have both, and those of the root are not seen. -/
theorem completing_in_any_grouping_of_two_between :
    ∃ (load load' : String → Except Fault Definition) (d near far root r : Definition),
      near.phoneRows = [] ∧ near.tabletRows = some [[.plain "t"]] ∧ far.phoneRows = [[.plain "q"]] ∧
      far.tabletRows = none ∧ root.phoneRows = [[.plain "w"]] ∧ root.tabletRows = some [[.plain "e"]] ∧
      resolve load none d = .ok r ∧ load "near" = .ok near ∧
      load' "near" = .ok (flattened near [far] (some "root")) ∧ resolve load' none d = .ok r ∧
      ofLineage [d, flattened near [far] none, root] = r ∧ [near, far, root].foldl completedBy d = r ∧
      r.phoneRows = [[.plain "q"]] ∧ r.tabletRows = some [[.plain "t"]] := by
  let root : Definition := { unset with phoneRows := [[.plain "w"]], tabletRows := some [[.plain "e"]] }
  let far : Definition := { unset with parent := some "root", phoneRows := [[.plain "q"]] }
  let near : Definition := { unset with parent := some "far", tabletRows := some [[.plain "t"]] }
  let d : Definition := { unset with parent := some "near" }
  let load : String → Except Fault Definition := fun name =>
    .ok (if name = "root" then root else if name = "far" then far else near)
  let load' : String → Except Fault Definition := fun name =>
    .ok (if name = "root" then root else flattened near [far] (some "root"))
  have resolved : resolve load none d = .ok (merged d [near, far, root]) := rfl
  have climb : Climb load d [("near", near), ("far", far), ("root", root)] :=
    .up rfl rfl (.up rfl rfl (.up rfl rfl (.here root)))
  obtain ⟨-, -, -, parts, loads⟩ := completing_in_any_grouping
  obtain ⟨steps, climb', ends, childUp, inPlace⟩ := loads load none d _ resolved
  obtain rfl := climb'.eq_of_root ends climb rfl
  have again : resolve load' none d = .ok _ :=
    inPlace [] "near" near [("far", far)] [("root", root)] rfl load' rfl (List.forall_mem_singleton.2 rfl)
  exact ⟨load, load', d, near, far, root, _, rfl, rfl, rfl, rfl, rfl, rfl, resolved, rfl, rfl, again,
    parts [d] near [far] [root] none (List.cons_ne_nil _ _), childUp.symm, rfl, rfl⟩

end ScreenKeyboard.Definition
