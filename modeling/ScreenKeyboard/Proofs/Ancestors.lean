import ScreenKeyboard.Definition.Lineage
/-!
# Ways up to an ancestor

The parents of a definition are loaded by name, so what becomes of it hangs on a graph that may have cycles and no end.
`Climb` is a way up this graph, as far as one likes to go.  Resolving a definition goes up as long as names are new and
load, for six steps at most, and the first thing that ends this decides (`resolve_eq_iff_outcome`).  So it always comes
to an end, and only a definition with a root among its first five ancestors is resolved.
-/
namespace ScreenKeyboard.Definition

variable {load : String → Except Fault Definition}

/-! ## Climbing -/

/-- **A way up from a definition**: names with the definitions that they load, each the parent of the one before. -/
inductive Climb (load : String → Except Fault Definition) : Definition → List (String × Definition) → Prop
  | here (d : Definition) : Climb load d []
  | up {d parent : Definition} {name : String} {steps : List (String × Definition)} (named : d.parent = some name)
      (loaded : load name = .ok parent) (rest : Climb load parent steps) : Climb load d ((name, parent) :: steps)

def top (d : Definition) : List (String × Definition) → Definition
  | [] => d
  | step :: steps => top step.2 steps

@[simp] theorem top_cons (d : Definition) (step : String × Definition) (steps : List (String × Definition)) :
    top d (step :: steps) = top step.2 steps := rfl

/-- A way up that ends at a root goes on from every other one: there is only one parent to go to. -/
theorem Climb.prefix_of_root {d : Definition} {steps : List (String × Definition)} (climb : Climb load d steps) :
    ∀ {full}, Climb load d full → (top d full).parent = none → steps <+: full := by
  induction climb with
  | here d => exact fun _ _ => List.nil_prefix
  | up named loaded _ ih =>
    intro full hf root
    cases hf with
    | here =>
      rw [top, named] at root
      cases root
    | up named' loaded' rest' =>
      rw [named, Option.some.injEq] at named'
      subst named'
      rw [loaded, Except.ok.injEq] at loaded'
      subst loaded'
      exact (List.prefix_cons_inj _).2 (ih rest' root)

theorem Climb.eq_of_root {d : Definition} {steps steps' : List (String × Definition)} (climb : Climb load d steps)
    (root : (top d steps).parent = none) (climb' : Climb load d steps') (root' : (top d steps').parent = none) :
    steps = steps' :=
  (climb.prefix_of_root climb' root').eq_of_length
    (Nat.le_antisymm (climb.prefix_of_root climb' root').length_le (climb'.prefix_of_root climb root).length_le)

/-! ## What ends a way up -/

/-- What a way up comes to when its names were all new: a root, a name that is known, a parent that does not load, or
one step more than there may be. -/
def Ends (load : String → Except Fault Definition) (known : List String) (more : Nat) (d : Definition)
    (steps : List (String × Definition)) : Except Fault (List Definition) → Prop
  | .ok line => steps.length ≤ more ∧ (top d steps).parent = none ∧ line = d :: steps.map Prod.snd
  | .error fault =>
    steps.length = more + 1 ∧ fault = depthFault ∨
      steps.length ≤ more ∧ ∃ name, (top d steps).parent = some name ∧
        (name ∈ known ∧ fault = cycleFault known name ∨ name ∉ known ∧ load name = .error fault)

/-- What a way up comes to, it comes to from the first parent on, with one step less to go. -/
theorem ends_cons_iff (known : List String) (more : Nat) (d parent : Definition) (name : String)
    (steps : List (String × Definition)) (result : Except Fault (List Definition)) :
    Ends load known (more + 1) d ((name, parent) :: steps) result ↔
      ∃ above, Ends load known more parent steps above ∧ result = (d :: ·) <$> above := by
  cases result with
  | error fault =>
    constructor
    · intro h
      refine ⟨.error fault, ?_, rfl⟩
      simpa only [Ends, top_cons, List.length_cons, Nat.add_right_cancel_iff, Nat.add_le_add_iff_right] using h
    · rintro ⟨above, h, he⟩
      cases above with
      | ok line => cases he
      | error fault' =>
        cases he
        simpa only [Ends, top_cons, List.length_cons, Nat.add_right_cancel_iff, Nat.add_le_add_iff_right] using h
  | ok line =>
    constructor
    · rintro ⟨few, root, rfl⟩
      exact ⟨.ok (parent :: steps.map Prod.snd), ⟨Nat.le_of_succ_le_succ few, root, rfl⟩, rfl⟩
    · rintro ⟨above, h, he⟩
      cases above with
      | error fault => cases he
      | ok line' =>
        obtain ⟨few, root, rfl⟩ := h
        cases he
        exact ⟨Nat.succ_le_succ few, root, rfl⟩

theorem not_ends_nil {known : List String} {more : Nat} {d parent : Definition} {name : String}
    {result : Except Fault (List Definition)} (named : d.parent = some name) (new : name ∉ known)
    (loaded : load name = .ok parent) : ¬ Ends load known more d [] result := by
  intro h
  cases result with
  | ok line =>
    have root : d.parent = none := h.2.1
    rw [named] at root
    cases root
  | error fault =>
    rcases h with ⟨he, -⟩ | ⟨-, name', named', h⟩
    · cases he
    · have same : name' = name := Option.some.inj (named'.symm.trans named)
      subst same
      rcases h with ⟨old, -⟩ | ⟨-, failed⟩
      · exact new old
      · rw [loaded] at failed
        cases failed

/-- Whether some way up by new names comes to a result. -/
def LeadsTo (load : String → Except Fault Definition) (asked : List String) (more : Nat) (d : Definition)
    (result : Except Fault (List Definition)) : Prop :=
  ∃ steps, Climb load d steps ∧ (asked ++ steps.map Prod.fst).Nodup ∧
    Ends load (asked ++ steps.map Prod.fst) more d steps result

theorem leadsTo_iff_of_stuck {asked : List String} {more : Nat} {d : Definition}
    {result : Except Fault (List Definition)} (fresh : asked.Nodup)
    (stuck : ∀ name parent, d.parent = some name → name ∉ asked → load name ≠ .ok parent) :
    LeadsTo load asked more d result ↔ Ends load asked more d [] result := by
  constructor
  · rintro ⟨steps, climb, new, ends⟩
    cases climb with
    | here => simpa using ends
    | up named loaded =>
      rw [List.map_cons, List.nodup_append] at new
      exact absurd loaded (stuck _ _ named fun old => new.2.2 _ old _ List.mem_cons_self rfl)
  · intro ends
    exact ⟨[], .here d, by simpa using fresh, by simpa using ends⟩

theorem leadsTo_iff_of_loaded {asked : List String} {more : Nat} {d parent : Definition} {name : String}
    {result : Except Fault (List Definition)} (named : d.parent = some name) (new : name ∉ asked)
    (loaded : load name = .ok parent) :
    LeadsTo load asked more d result ↔
      ∃ steps, Climb load parent steps ∧ (asked ++ [name] ++ steps.map Prod.fst).Nodup ∧
        Ends load (asked ++ [name] ++ steps.map Prod.fst) more d ((name, parent) :: steps) result := by
  constructor
  · rintro ⟨steps, climb, fresh, ends⟩
    cases climb with
    | here =>
      rw [List.map_nil, List.append_nil] at ends
      exact absurd ends (not_ends_nil named new loaded)
    | up named' loaded' rest =>
      rw [named, Option.some.injEq] at named'
      subst named'
      rw [loaded, Except.ok.injEq] at loaded'
      subst loaded'
      rw [List.map_cons, List.append_cons] at fresh ends
      exact ⟨_, rest, fresh, ends⟩
  · rintro ⟨steps, climb, fresh, ends⟩
    refine ⟨(name, parent) :: steps, .up named loaded climb, ?_, ?_⟩
    · rw [List.map_cons, List.append_cons]; exact fresh
    · rw [List.map_cons, List.append_cons]; exact ends

theorem lineageWithin_of_stuck {asked : List String} {more : Nat} {d : Definition}
    {result : Except Fault (List Definition)}
    (stuck : ∀ name parent, d.parent = some name → name ∉ asked → load name ≠ .ok parent) :
    lineageWithin load asked more d = result ↔ Ends load asked more d [] result := by
  unfold lineageWithin
  cases hp : d.parent with
  | none => cases result <;> simp [Ends, top, hp, eq_comm]
  | some name =>
    by_cases old : name ∈ asked
    · cases result <;> simp [Ends, top, hp, old, eq_comm]
    · cases hl : load name with
      | ok parent => exact absurd hl (stuck name parent hp old)
      | error fault => cases result <;> simp [Ends, top, hp, old, hl]

theorem lineageWithin_of_loaded {asked : List String} {d parent : Definition} {name : String}
    (named : d.parent = some name) (new : name ∉ asked) (loaded : load name = .ok parent) :
    lineageWithin load asked 0 d = .error depthFault ∧
      ∀ more, lineageWithin load asked (more + 1) d =
        (d :: ·) <$> lineageWithin load (asked ++ [name]) more parent := by
  have unknown : asked.contains name = false := by simpa using new
  constructor
  · rw [lineageWithin, named]
    simp only [unknown, loaded]
    rfl
  · intro more
    rw [lineageWithin, named]
    simp only [unknown, loaded]
    rfl

theorem nodup_append_new {asked : List String} {name : String} (fresh : asked.Nodup) (new : name ∉ asked) :
    (asked ++ [name]).Nodup := by
  rw [List.nodup_append]
  refine ⟨fresh, by simp, fun a ha b hb => ?_⟩
  rw [List.mem_singleton.1 hb]
  rintro rfl
  exact new ha

/-- **The lineage is what the way up comes to.** -/
theorem lineageWithin_eq_iff : ∀ (more : Nat) (asked : List String) (d : Definition)
    (result : Except Fault (List Definition)), asked.Nodup →
      (lineageWithin load asked more d = result ↔ LeadsTo load asked more d result)
  | more, asked, d, result, fresh => by
    -- Either there is a step to make, and both sides make it, or both end here.
    by_cases go : ∃ name parent, d.parent = some name ∧ name ∉ asked ∧ load name = .ok parent
    · obtain ⟨name, parent, named, new, loaded⟩ := go
      rw [leadsTo_iff_of_loaded named new loaded]
      match more with
      | 0 =>
        -- The parent is loaded before it is found to be one too many: a parent that does not load comes first.
        rw [(lineageWithin_of_loaded named new loaded).1]
        constructor
        · rintro rfl
          exact ⟨[], .here parent, by simpa using nodup_append_new fresh new, .inl ⟨rfl, rfl⟩⟩
        · rintro ⟨steps, -, -, ends⟩
          cases result with
          | ok line => exact absurd ends.1 (Nat.not_succ_le_zero _)
          | error fault =>
            rcases ends with ⟨-, rfl⟩ | ⟨few, -⟩
            · rfl
            · exact absurd few (Nat.not_succ_le_zero _)
      | more + 1 =>
        rw [(lineageWithin_of_loaded named new loaded).2]
        have ih := fun above => lineageWithin_eq_iff more (asked ++ [name]) parent above (nodup_append_new fresh new)
        simp only [ends_cons_iff]
        constructor
        · intro h
          obtain ⟨steps, climb, new', ends⟩ := (ih _).1 rfl
          exact ⟨steps, climb, new', _, ends, h.symm⟩
        · rintro ⟨steps, climb, new', above, ends, rfl⟩
          rw [(ih above).2 ⟨steps, climb, new', ends⟩]
    · have stuck : ∀ name parent, d.parent = some name → name ∉ asked → load name ≠ .ok parent :=
        fun name parent named new loaded => go ⟨name, parent, named, new, loaded⟩
      rw [leadsTo_iff_of_stuck fresh stuck, lineageWithin_of_stuck stuck]

/-! ## Resolving -/

/-- The names that are known after a way up: that of the definition itself, if it has one, and those asked for. -/
def known (origin : Option String) (steps : List (String × Definition)) : List String :=
  origin.toList ++ steps.map Prod.fst

/-- **What becomes of a definition**, by the first thing that happens on its way up: it is complete at a root, which may
be as many as five steps away; a name comes up again; a parent does not load; or a sixth ancestor is found. -/
inductive Outcome (load : String → Except Fault Definition) (origin : Option String) (d : Definition) :
    Except Fault Definition → Prop
  | complete {steps : List (String × Definition)} (climb : Climb load d steps) (new : (known origin steps).Nodup)
      (few : steps.length ≤ 5) (root : (top d steps).parent = none) :
      Outcome load origin d (.ok (merged d (steps.map Prod.snd)))
  | again {steps : List (String × Definition)} {name : String} (climb : Climb load d steps)
      (new : (known origin steps).Nodup) (few : steps.length ≤ 5) (named : (top d steps).parent = some name)
      (old : name ∈ known origin steps) :
      Outcome load origin d (.error (.cycle ("Circular inheritance detected: layout inherits from '" ++ name ++ "'")
        (known origin steps ++ [name])))
  | missing {steps : List (String × Definition)} {name : String} {fault : Fault} (climb : Climb load d steps)
      (new : (known origin steps).Nodup) (few : steps.length ≤ 5) (named : (top d steps).parent = some name)
      (fresh : name ∉ known origin steps) (failed : load name = .error fault) : Outcome load origin d (.error fault)
  | tooDeep {steps : List (String × Definition)} (climb : Climb load d steps) (new : (known origin steps).Nodup)
      (many : steps.length = 6) : Outcome load origin d (.error (.tooDeep "Inheritance chain too deep" 5 6))

theorem lineage_eq_iff {origin : Option String} {d : Definition} {result : Except Fault (List Definition)} :
    lineage load origin d = result ↔ LeadsTo load origin.toList 5 d result :=
  lineageWithin_eq_iff 5 origin.toList d result (by cases origin <;> simp)

theorem resolve_eq_iff {origin : Option String} {d : Definition} {result : Except Fault Definition} :
    resolve load origin d = result ↔ Outcome load origin d result := by
  constructor
  · intro h
    obtain ⟨steps, climb, new, ends⟩ := lineage_eq_iff.1 (rfl : lineage load origin d = _)
    unfold resolve at h
    subst h
    generalize lineage load origin d = line at ends
    cases line with
    | ok line =>
      obtain ⟨few, root, rfl⟩ := ends
      exact .complete climb new few root
    | error fault =>
      rcases ends with ⟨many, rfl⟩ | ⟨few, name, named, ⟨old, rfl⟩ | ⟨fresh, failed⟩⟩
      · exact .tooDeep climb new many
      · exact .again climb new few named old
      · exact .missing climb new few named fresh failed
  · intro h
    unfold resolve
    cases h with
    | complete climb new few root =>
      have line : lineage load origin d = .ok _ := lineage_eq_iff.2 ⟨_, climb, new, few, root, rfl⟩
      rw [line]
      rfl
    | again climb new few named old =>
      have line : lineage load origin d = .error _ :=
        lineage_eq_iff.2 ⟨_, climb, new, .inr ⟨few, _, named, .inl ⟨old, rfl⟩⟩⟩
      rw [line]
      rfl
    | missing climb new few named fresh failed =>
      have line : lineage load origin d = .error _ :=
        lineage_eq_iff.2 ⟨_, climb, new, .inr ⟨few, _, named, .inr ⟨fresh, failed⟩⟩⟩
      rw [line]
      rfl
    | tooDeep climb new many =>
      have line : lineage load origin d = .error _ := lineage_eq_iff.2 ⟨_, climb, new, .inl ⟨many, rfl⟩⟩
      rw [line]
      rfl

theorem parent_merged : ∀ (d : Definition) (steps : List (String × Definition)), (top d steps).parent = none →
    (merged d (steps.map Prod.snd)).parent = none
  | _, [], root => root
  | _, _ :: _, _ => rfl

theorem exists_climb_of_resolve {origin : Option String} {d r : Definition} (h : resolve load origin d = .ok r) :
    ∃ steps, Climb load d steps ∧ (known origin steps).Nodup ∧ steps.length ≤ 5 ∧ (top d steps).parent = none ∧
      r = merged d (steps.map Prod.snd) := by
  cases resolve_eq_iff.1 h with
  | complete climb new few root => exact ⟨_, climb, new, few, root, rfl⟩

/-- **Resolving always comes to an end, at the first thing that ends the way up.**  What comes of it has no parent; and
nothing comes of a definition with more ancestors than there may be, or with a name that comes up again, not even when
it could go on for ever. -/
theorem resolve_eq_iff_outcome (load : String → Except Fault Definition) (origin : Option String) (d : Definition) :
    (∀ result, resolve load origin d = result ↔ Outcome load origin d result) ∧
    (∀ r, resolve load origin d = .ok r → r.parent = none) ∧
    (∀ steps, Climb load d steps → maxAncestors < steps.length ∨ ¬ (known origin steps).Nodup →
      ∀ r, resolve load origin d ≠ .ok r) ∧
    ∀ detail chain, (Fault.cycle detail chain).statement =
      "Inheritance cycle: " ++ detail ++ "\n  Chain: " ++ String.intercalate " -> " chain := by
  refine ⟨fun result => resolve_eq_iff, ?_, ?_, fun detail chain => rfl⟩
  · intro r h
    obtain ⟨steps, -, -, -, root, rfl⟩ := exists_climb_of_resolve h
    exact parent_merged d steps root
  · intro steps climb bad r h
    obtain ⟨full, climb', new, few, root, -⟩ := exists_climb_of_resolve h
    obtain ⟨rest, rfl⟩ := climb.prefix_of_root climb' root
    rcases bad with many | twice
    · rw [List.length_append] at few
      exact absurd (Nat.le_trans (Nat.le_add_right _ _) few) (Nat.not_le_of_lt many)
    · rw [known, List.map_append, ← List.append_assoc, List.nodup_append] at new
      exact twice new.1

/-- Neither a parent that is always a new one nor a definition that is its own parent gets anywhere. -/
theorem resolve_eq_iff_outcome_of_endless :
    resolve (fun name => .ok { unset with parent := some (name ++ "a") }) none { unset with parent := some "a" } =
      .error (.tooDeep "Inheritance chain too deep" 5 6) ∧
    resolve (fun _ => .ok { unset with parent := some "a" }) (some "a") { unset with parent := some "a" } =
      .error (.cycle "Circular inheritance detected: layout inherits from 'a'" ["a", "a"]) := by
  constructor
  · have climb : Climb (fun name => .ok { unset with parent := some (name ++ "a") }) { unset with parent := some "a" }
        (["a", "aa", "aaa", "aaaa", "aaaaa", "aaaaaa"].map fun name =>
          (name, { unset with parent := some (name ++ "a") })) :=
      .up rfl rfl (.up rfl rfl (.up rfl rfl (.up rfl rfl (.up rfl rfl (.up rfl rfl (.here _))))))
    exact ((resolve_eq_iff_outcome _ _ _).1 _).2 (.tooDeep climb (by decide +kernel) rfl)
  · have new : (known (some "a") []).Nodup := by decide +kernel
    exact ((resolve_eq_iff_outcome _ _ _).1 _).2 (.again (.here _) new (Nat.zero_le 5) rfl List.mem_cons_self)

end ScreenKeyboard.Definition
