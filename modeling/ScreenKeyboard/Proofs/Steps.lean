/-!
# Steps that can fail

A computation that can fail succeeds exactly when each of its steps does, one after the other.  These laws take a
success apart, and put one together, for each way in which steps are combined.  Looking up a name is a step too: it
succeeds on an entry of that name.
-/
namespace ScreenKeyboard

variable {α β ε ε' : Type}

theorem bind_eq_ok_iff {x : Except ε α} {f : α → Except ε β} {b : β} :
    x >>= f = .ok b ↔ ∃ a, x = .ok a ∧ f a = .ok b := by
  cases x <;> simp [bind, Except.bind]

theorem map_eq_ok_iff {x : Except ε α} {f : α → β} {b : β} : f <$> x = .ok b ↔ ∃ a, x = .ok a ∧ f a = b := by
  cases x <;> simp [Functor.map, Except.map]

theorem mapError_eq_ok_iff {x : Except ε α} {f : ε → ε'} {a : α} : x.mapError f = .ok a ↔ x = .ok a := by
  cases x with
  | error e => exact ⟨nofun, nofun⟩
  | ok b => constructor <;> (rintro ⟨⟩; rfl)

theorem toOption_eq_some_iff {x : Except ε α} {a : α} : x.toOption = some a ↔ x = .ok a := by
  cases x <;> simp [Except.toOption]

theorem forM_eq_ok_iff {f : α → Except ε Unit} : ∀ xs : List α, xs.forM f = .ok () ↔ ∀ x ∈ xs, f x = .ok ()
  | [] => by simp [List.forM, pure, Except.pure]
  | x :: xs => by
    rw [List.forall_mem_cons, ← forM_eq_ok_iff xs]
    change (f x >>= fun _ => xs.forM f) = .ok () ↔ _
    rw [bind_eq_ok_iff]
    constructor
    · rintro ⟨⟨⟩, first, rest⟩
      exact ⟨first, rest⟩
    · rintro ⟨first, rest⟩
      exact ⟨(), first, rest⟩

theorem mem_of_lookup_eq_some [BEq α] [LawfulBEq α] {entries : List (α × β)} {name : α} {value : β}
    (h : entries.lookup name = some value) : (name, value) ∈ entries := by
  obtain ⟨before, after, parts, -⟩ := List.lookup_eq_some_iff.1 h
  rw [parts]
  exact List.mem_append_right before List.mem_cons_self

theorem lookup_map_snd [BEq ε] (f : α → β) (name : ε) : ∀ entries : List (ε × α),
    (entries.map fun e => (e.1, f e.2)).lookup name = (entries.lookup name).map f
  | [] => rfl
  | e :: entries => by
    rw [List.map_cons, List.lookup_cons, List.lookup_cons, lookup_map_snd f name entries]
    split <;> rfl

/-- **What is kept under a name is what the name stands for**, also when the name comes up again. -/
theorem exists_mapM_pairs [DecidableEq α] {f : α → Except ε β} : ∀ xs : List α, (∀ x ∈ xs, ∃ y, f x = .ok y) →
    ∃ kept, xs.mapM (fun x => (fun y => (x, y)) <$> f x) = .ok kept ∧
      ∀ x ∈ xs, ∃ y, f x = .ok y ∧ kept.lookup x = some y
  | [], _ => ⟨[], rfl, fun _ h => by cases h⟩
  | x :: xs, all => by
    obtain ⟨⟨y, hy⟩, rest⟩ := List.forall_mem_cons.1 all
    obtain ⟨kept, made, agrees⟩ := exists_mapM_pairs xs rest
    refine ⟨(x, y) :: kept, ?_, ?_⟩
    · rw [List.mapM_cons, hy, made]
      rfl
    · intro x' there
      by_cases same : x' = x
      · subst same
        exact ⟨y, hy, List.lookup_cons_self⟩
      · obtain ⟨y', hy', looked⟩ := agrees x' ((List.mem_cons.1 there).resolve_left same)
        refine ⟨y', hy', ?_⟩
        rw [List.lookup_cons, beq_false_of_ne same]
        exact looked

end ScreenKeyboard
