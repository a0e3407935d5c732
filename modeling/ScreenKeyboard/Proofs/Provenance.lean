import ScreenKeyboard.Proofs.Ancestors
/-!
# Where the fields of a definition come from

A definition that is resolved takes each field from the nearest of its lineage that has it.  Tablet rows are the one
exception: they are looked for no farther than where the phone rows come from, for they were made to go with those
(`Nearest.tabletRows`).  Completing a child by a parent adds the child to the lineage (`Nearest.cons`), and by induction
the law holds of lineages of any length.
-/
namespace ScreenKeyboard.Definition

/-- **A definition whose fields come from the nearest of a lineage that has them.** -/
structure Nearest (line : List Definition) (r : Definition) : Prop where
  name : r.name = ((line.map Definition.name).find? (· ≠ "")).getD ""
  locale : r.locale = line.findSome? Definition.locale
  caseless : r.caseless = line.findSome? Definition.caseless
  currency : r.policy.currency = line.findSome? (·.policy.currency)
  doubleQuotes : r.policy.doubleQuotes = line.findSome? (·.policy.doubleQuotes)
  singleQuotes : r.policy.singleQuotes = line.findSome? (·.policy.singleQuotes)
  doubleAngles : r.policy.doubleAngles = line.findSome? (·.policy.doubleAngles)
  singleAngles : r.policy.singleAngles = line.findSome? (·.policy.singleAngles)
  hasShift : r.policy.hasShift = line.findSome? (·.policy.hasShift)
  accents : r.policy.accents = line.findSome? (·.policy.accents)
  extraPunctuation : r.policy.extraPunctuation = line.findSome? (·.policy.extraPunctuation)
  phoneRows : r.phoneRows = ((line.map Definition.phoneRows).find? (· ≠ [])).getD []
  tabletRows : r.tabletRows = (line.take (line.findIdx (·.phoneRows ≠ []) + 1)).findSome? Definition.tabletRows

/-! ## Three ways of completing a field -/

/-- **A field that a child may leave open** is that of the nearest definition that does not. -/
theorem merged_eq_findSome? {α : Type} (field : Definition → Option α)
    (law : ∀ child parent, field (child.completedBy parent) = (field child).or (field parent)) :
    ∀ (d : Definition) (line : List Definition), field (merged d line) = (d :: line).findSome? field
  | d, [] => by
    rw [merged, List.findSome?_cons, List.findSome?_nil]
    cases field d <;> rfl
  | d, next :: rest => by
    rw [List.findSome?_cons, merged, law, merged_eq_findSome? field law next rest]
    cases field d <;> rfl

/-- **A field that may be empty** is that of the nearest definition where it is not. -/
theorem merged_eq_find? {α : Type} [DecidableEq α] (field : Definition → α) (empty : α)
    (law : ∀ child parent,
      field (child.completedBy parent) = if field child = empty then field parent else field child) :
    ∀ (d : Definition) (line : List Definition),
      field (merged d line) = (((d :: line).map field).find? (· ≠ empty)).getD empty
  | d, [] => by
    rw [merged, List.map_cons, List.find?_cons]
    by_cases h : field d = empty <;> simp [h]
  | d, next :: rest => by
    rw [List.map_cons, List.find?_cons, merged, law, merged_eq_find? field empty law next rest]
    by_cases h : field d = empty <;> simp [h]

/-- **Tablet rows** are those of the nearest definition that has some, as far as the phone rows come from. -/
theorem tabletRows_merged : ∀ (d : Definition) (line : List Definition), (merged d line).tabletRows =
    ((d :: line).take ((d :: line).findIdx (·.phoneRows ≠ []) + 1)).findSome? Definition.tabletRows
  | d, [] => by
    have all : [d].take ([d].findIdx (·.phoneRows ≠ []) + 1) = [d] := by
      rw [List.take_succ_cons, List.take_nil]
    rw [merged, all, List.findSome?_cons, List.findSome?_nil]
    cases d.tabletRows <;> rfl
  | d, next :: rest => by
    rw [merged, List.findIdx_cons, List.take_succ_cons, List.findSome?_cons]
    unfold completedBy
    dsimp only
    -- With phone rows of its own the child ends the search, and without it is one step farther.
    by_cases h : d.phoneRows = []
    · rw [if_pos h, tabletRows_merged next rest]
      simp only [h, ne_eq, not_true_eq_false, decide_false, cond_false]
      cases d.tabletRows <;> rfl
    · rw [if_neg h]
      simp only [h, ne_eq, not_false_eq_true, decide_true, cond_true, List.take_zero, List.findSome?_nil]
      cases d.tabletRows <;> rfl

/-- **What a lineage makes has its fields from the nearest that has them.** -/
theorem nearest_merged (d : Definition) (line : List Definition) : Nearest (d :: line) (merged d line) where
  name := merged_eq_find? Definition.name "" (fun _ _ => rfl) d line
  locale := merged_eq_findSome? Definition.locale (fun _ _ => rfl) d line
  caseless := merged_eq_findSome? Definition.caseless (fun _ _ => rfl) d line
  currency := merged_eq_findSome? (·.policy.currency) (fun _ _ => rfl) d line
  doubleQuotes := merged_eq_findSome? (·.policy.doubleQuotes) (fun _ _ => rfl) d line
  singleQuotes := merged_eq_findSome? (·.policy.singleQuotes) (fun _ _ => rfl) d line
  doubleAngles := merged_eq_findSome? (·.policy.doubleAngles) (fun _ _ => rfl) d line
  singleAngles := merged_eq_findSome? (·.policy.singleAngles) (fun _ _ => rfl) d line
  hasShift := merged_eq_findSome? (·.policy.hasShift) (fun _ _ => rfl) d line
  accents := merged_eq_findSome? (·.policy.accents) (fun _ _ => rfl) d line
  extraPunctuation := merged_eq_findSome? (·.policy.extraPunctuation) (fun _ _ => rfl) d line
  phoneRows := merged_eq_find? Definition.phoneRows [] (fun _ _ => rfl) d line
  tabletRows := tabletRows_merged d line

/-! ## Resolved definitions -/

theorem find_phoneRows {supplier : Definition} (above : List Definition) (supplies : supplier.phoneRows ≠ []) :
    ∀ below : List Definition, (∀ e ∈ below, e.phoneRows = []) →
      ((below ++ supplier :: above).map Definition.phoneRows).find? (· ≠ []) = some supplier.phoneRows ∧
        (below ++ supplier :: above).findIdx (·.phoneRows ≠ []) = below.length
  | [], _ => by
    rw [List.nil_append, List.map_cons, List.find?_cons, List.findIdx_cons]
    simp [supplies]
  | e :: below, bare => by
    obtain ⟨he, bare⟩ := List.forall_mem_cons.1 bare
    obtain ⟨found, index⟩ := find_phoneRows above supplies below bare
    rw [List.cons_append, List.map_cons, List.find?_cons, List.findIdx_cons, found, index]
    simp [he]

/-- The definition that supplies the phone rows is the last one whose tablet rows count. -/
theorem Nearest.rows_of_supplier {below above : List Definition} {supplier r : Definition}
    (h : Nearest (below ++ supplier :: above) r) (bare : ∀ e ∈ below, e.phoneRows = [])
    (supplies : supplier.phoneRows ≠ []) :
    r.phoneRows = supplier.phoneRows ∧ r.tabletRows = (below ++ [supplier]).findSome? Definition.tabletRows := by
  obtain ⟨found, index⟩ := find_phoneRows above supplies below bare
  refine ⟨?_, ?_⟩
  · rw [h.phoneRows, found, Option.getD_some]
  · rw [h.tabletRows, index, List.take_length_add_append, List.take_succ_cons, List.take_zero]

/-- **Each field of a resolved definition comes from the nearest of its lineage that has it**, and there is just one
lineage up to a root.  Tablet rows come from no farther than the phone rows do. -/
theorem resolve_nearest {load : String → Except Fault Definition} {origin : Option String} {d r : Definition}
    (resolved : resolve load origin d = .ok r) :
    (∃ steps, Climb load d steps ∧ (top d steps).parent = none) ∧
    ∀ steps, Climb load d steps → (top d steps).parent = none →
      Nearest (d :: steps.map Prod.snd) r ∧
      ∀ below supplier above, d :: steps.map Prod.snd = below ++ supplier :: above → (∀ e ∈ below, e.phoneRows = []) →
        supplier.phoneRows ≠ [] →
          r.phoneRows = supplier.phoneRows ∧ r.tabletRows = (below ++ [supplier]).findSome? Definition.tabletRows := by
  obtain ⟨full, climb, -, -, root, rfl⟩ := exists_climb_of_resolve resolved
  refine ⟨⟨full, climb, root⟩, fun steps climb' root' => ?_⟩
  -- The two ways up are prefixes of each other, for both of them end at a root.
  have same : full = steps := (climb.prefix_of_root climb' root').eq_of_length
    (Nat.le_antisymm (climb.prefix_of_root climb' root').length_le (climb'.prefix_of_root climb root).length_le)
  subst same
  have nearest := nearest_merged d (full.map Prod.snd)
  refine ⟨nearest, fun below supplier above line bare supplies => ?_⟩
  rw [line] at nearest
  exact nearest.rows_of_supplier bare supplies

/-- Tablet rows of a root stay there when a definition in between has phone rows alone, yet other fields come down. -/
theorem resolve_nearest_of_phone_rows_between :
    ∃ (load : String → Except Fault Definition) (d root r : Definition), load "root" = .ok root ∧
      root.tabletRows = some [[.plain "e"]] ∧ root.caseless = some true ∧ resolve load none d = .ok r ∧
      r.phoneRows = [[.plain "q"]] ∧ r.tabletRows = none ∧ r.caseless = some true := by
  let root : Definition :=
    { unset with phoneRows := [[.plain "w"]], tabletRows := some [[.plain "e"]], caseless := some true }
  let between : Definition := { unset with parent := some "root", phoneRows := [[.plain "q"]] }
  let d : Definition := { unset with parent := some "between" }
  let load : String → Except Fault Definition := fun name => .ok (if name = "root" then root else between)
  have resolved : resolve load none d = .ok (merged d [between, root]) := rfl
  have climb : Climb load d [("between", between), ("root", root)] := .up rfl rfl (.up rfl rfl (.here root))
  obtain ⟨nearest, rows⟩ := (resolve_nearest resolved).2 _ climb rfl
  obtain ⟨phone, tablet⟩ := rows [d] between [root] rfl (List.forall_mem_singleton.2 rfl) (List.cons_ne_nil _ _)
  exact ⟨load, d, root, _, rfl, rfl, rfl, resolved, phone, tablet, nearest.caseless⟩

end ScreenKeyboard.Definition
