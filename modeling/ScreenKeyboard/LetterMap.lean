/-!
# Maps from letters

A letter map gives each of some texts a value.  Its entries are in order of their texts and no text
has two, so equal maps are equal lists of entries.  A later entry for a text replaces the earlier
one.
-/
namespace ScreenKeyboard

/-- Values for some texts, in order of the texts. -/
structure LetterMap (α : Type) where
  entries : List (String × α)
  sorted : entries.Pairwise fun a b => a.1 < b.1

namespace LetterMap

variable {α β : Type}

@[ext] theorem ext {m m' : LetterMap α} (h : m.entries = m'.entries) : m = m' := by
  cases m; cases m'; cases h; rfl

instance [DecidableEq α] : DecidableEq (LetterMap α) := fun m m' =>
  decidable_of_iff (m.entries = m'.entries) ⟨ext, fun h => by rw [h]⟩

def empty : LetterMap α := ⟨[], .nil⟩

def insertEntry (letter : String) (value : α) : List (String × α) → List (String × α)
  | [] => [(letter, value)]
  | e :: es =>
    if letter < e.1 then (letter, value) :: e :: es
    else if letter = e.1 then (letter, value) :: es
    else e :: insertEntry letter value es

theorem mem_insertEntry {letter : String} {value : α} {es : List (String × α)} {e : String × α}
    (h : e ∈ insertEntry letter value es) : e = (letter, value) ∨ e ∈ es := by
  induction es with
  | nil => simpa [insertEntry] using h
  | cons d ds ih =>
    rw [insertEntry] at h
    split at h
    · simpa using h
    · split at h
      · rcases List.mem_cons.1 h with h | h
        · exact .inl h
        · exact .inr (List.mem_cons_of_mem _ h)
      · rcases List.mem_cons.1 h with h | h
        · exact .inr (h ▸ List.mem_cons_self)
        · exact (ih h).imp id (List.mem_cons_of_mem _)

theorem sorted_insertEntry (letter : String) (value : α) {es : List (String × α)}
    (h : es.Pairwise fun a b => a.1 < b.1) :
    (insertEntry letter value es).Pairwise fun a b => a.1 < b.1 := by
  induction es with
  | nil => simp [insertEntry]
  | cons d ds ih =>
    obtain ⟨hd, hds⟩ := List.pairwise_cons.1 h
    rw [insertEntry]
    split
    · next hlt =>
      refine List.pairwise_cons.2 ⟨fun e he => ?_, h⟩
      rcases List.mem_cons.1 he with rfl | he
      · exact hlt
      · exact String.lt_trans hlt (hd e he)
    · split
      · next _ heq => exact List.pairwise_cons.2 ⟨fun e he => heq ▸ hd e he, hds⟩
      · next hlt hne =>
        refine List.pairwise_cons.2 ⟨fun e he => ?_, ih hds⟩
        rcases mem_insertEntry he with rfl | he
        · exact String.not_le.1 fun hle => hne (String.le_antisymm hle (String.not_lt.1 hlt))
        · exact hd e he

def insert (m : LetterMap α) (letter : String) (value : α) : LetterMap α :=
  ⟨insertEntry letter value m.entries, sorted_insertEntry letter value m.sorted⟩

/-- The map of some entries, of which later ones replace earlier ones. -/
def ofList (entries : List (String × α)) : LetterMap α :=
  entries.foldl (fun m e => m.insert e.1 e.2) empty

def get? (m : LetterMap α) (letter : String) : Option α := m.entries.lookup letter

def letters (m : LetterMap α) : List String := m.entries.map Prod.fst

def map (f : α → β) (m : LetterMap α) : LetterMap β :=
  ⟨m.entries.map fun e => (e.1, f e.2), List.pairwise_map.2 m.sorted⟩

@[simp] theorem letters_map (f : α → β) (m : LetterMap α) : (m.map f).letters = m.letters := by
  simp [letters, map, Function.comp_def]

end LetterMap

end ScreenKeyboard
