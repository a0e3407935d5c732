import ScreenKeyboard.Text.Similar
/-!
# Suggested names

A name that is suggested for another one is the first that is the same but for its case, or else the first that is close
to it: one of the two contains the other, or they are of similar length and share most characters (`Text.Close`).  When
they share most is counted in two units: so many characters as the other name has bytes, less two.  For the shortest
names that can be none, and of names in other scripts all characters may be too few.  So not all that is suggested is
alike, and not all that is alike is suggested (`Text.suggestions_by_similarity`).
-/
namespace ScreenKeyboard.Text

variable {target name : String} {candidates : List String}

/-! ## Small letters -/

theorem lowerCodes_ne_nil (code : Nat) : lowerCodes code ≠ [] := by
  unfold lowerCodes
  split
  · rename_i codes found
    have all : ∀ pair ∈ lowerExpansions, pair.2 ≠ [] := by decide
    obtain ⟨before, after, whole, -⟩ := List.lookup_eq_some_iff.1 found
    exact all (code, codes) (whole ▸ List.mem_append_right before List.mem_cons_self)
  · exact List.cons_ne_nil _ _

theorem lower_empty : lower "" = "" := rfl

theorem lower_eq_empty_iff (s : String) : lower s = "" ↔ s = "" := by
  rw [← String.toList_eq_nil_iff, lower, String.toList_ofList, ← String.toList_eq_nil_iff]
  cases s.toList with
  | nil => exact Iff.rfl
  | cons c cs =>
    refine iff_of_false (fun none => ?_) (List.cons_ne_nil c cs)
    rw [lowerFrom, List.append_eq_nil_iff] at none
    replace none := none.1
    split at none
    · exact List.cons_ne_nil _ _ none
    · exact lowerCodes_ne_nil _ (List.map_eq_nil_iff.1 none)

theorem length_le_size_utf8Encode (cs : List Char) : cs.length ≤ cs.utf8Encode.size := by
  induction cs with
  | nil => exact Nat.zero_le _
  | cons c cs ih =>
    have one := c.utf8Size_pos
    rw [List.utf8Encode_cons, ByteArray.size_append, List.utf8Encode_singleton, List.size_toByteArray,
      String.length_utf8EncodeChar, List.length_cons]
    omega

theorem length_le_utf8ByteSize (s : String) : s.toList.length ≤ s.utf8ByteSize := by
  rw [← String.size_toByteArray, ← String.utf8Encode_toList]
  exact length_le_size_utf8Encode s.toList

/-! ## Similarity -/

/-- The lengths of two texts in small letters differ by two bytes at most. -/
def SimilarLength (target name : String) : Prop :=
  (lower name).utf8ByteSize ≤ (lower target).utf8ByteSize + 2 ∧
    (lower target).utf8ByteSize ≤ (lower name).utf8ByteSize + 2

instance : Decidable (SimilarLength target name) := inferInstanceAs (Decidable (_ ∧ _))

/-- One text contains another one, both in small letters. -/
def Contains (outer inner : String) : Prop := (lower inner).toList <:+: (lower outer).toList

instance {outer inner : String} : Decidable (Contains outer inner) := decidable_of_iff _ (occursIn_iff _ _)

/-- How many characters of a text occur in another one, both in small letters. -/
def shared (target name : String) : Nat := sharedCount (lower target).toList (lower name).toList

/-- One name may stand for another one: one of them contains the other, or they are of similar length, and as many
characters of the other one occur in it as that one has bytes, less two. -/
def Close (target name : String) : Prop :=
  Contains name target ∨ Contains target name ∨
    SimilarLength target name ∧ (lower target).utf8ByteSize ≤ shared target name + 2

theorem isSimilar_iff : isSimilar target name = true ↔ Close target name := by
  unfold isSimilar sharesMost oneContainsOther Close SimilarLength Contains shared
  simp only [Bool.or_eq_true, Bool.and_eq_true, decide_eq_true_eq, occursIn_iff]
  rw [or_comm, or_assoc]

instance : Decidable (Close target name) := decidable_of_iff _ isSimilar_iff

theorem contains_of_same (same : lower name = lower target) : Contains name target := by
  have whole : Contains name name := List.infix_rfl
  unfold Contains
  exact same ▸ whole

theorem shared_le_length (target name : String) : shared target name ≤ (lower target).toList.length :=
  List.countP_le_length

/-- A name of similar length that is close but lacks more than half of the other's characters is close to a very short
one: to one or two characters, of which it has none, or to three, of which it has one. -/
theorem most_but_not_half_iff : (lower target).utf8ByteSize ≤ shared target name + 2 ∧
    2 * shared target name < (lower target).toList.length ↔
      (lower target).toList ≠ [] ∧ shared target name = 0 ∧ (lower target).utf8ByteSize ≤ 2 ∨
        (lower target).toList.length = 3 ∧ shared target name = 1 ∧ (lower target).utf8ByteSize = 3 := by
  -- There are no more characters shared than there are, and no more characters than bytes.
  have within := shared_le_length target name
  have bytes := length_le_utf8ByteSize (lower target)
  rw [← List.length_pos_iff]
  omega

/-! ## Suggestions -/

/-- An item of a list with a property that none before it has. -/
def IsFirst {α : Type} (p : α → Prop) (xs : List α) (x : α) : Prop :=
  ∃ before after, xs = before ++ x :: after ∧ p x ∧ ∀ y ∈ before, ¬ p y

theorem IsFirst.mem {α : Type} {p : α → Prop} {xs : List α} {x : α} : IsFirst p xs x → x ∈ xs := by
  rintro ⟨before, after, rfl, -⟩
  exact List.mem_append_right before List.mem_cons_self

theorem IsFirst.holds {α : Type} {p : α → Prop} {xs : List α} {x : α} : IsFirst p xs x → p x := by
  rintro ⟨-, -, -, holds, -⟩
  exact holds

theorem find?_eq_some_iff_isFirst {α : Type} {test : α → Bool} {p : α → Prop} (tests : ∀ x, test x = true ↔ p x)
    {xs : List α} {x : α} : xs.find? test = some x ↔ IsFirst p xs x := by
  rw [List.find?_eq_some_iff_append, tests]
  constructor
  · rintro ⟨holds, before, after, whole, others⟩
    exact ⟨before, after, whole, holds, fun y hy => by simpa [← tests] using others y hy⟩
  · rintro ⟨before, after, whole, holds, others⟩
    exact ⟨holds, before, after, whole, fun y hy => by simpa [← tests] using others y hy⟩

theorem exists_isFirst {α : Type} {p : α → Prop} [DecidablePred p] {xs : List α} {x : α} (there : x ∈ xs)
    (holds : p x) : ∃ y, IsFirst p xs y := by
  have some : (xs.find? fun y => decide (p y)).isSome := List.find?_isSome.2 ⟨x, there, decide_eq_true holds⟩
  obtain ⟨y, found⟩ := Option.isSome_iff_exists.1 some
  exact ⟨y, (find?_eq_some_iff_isFirst fun _ => decide_eq_true_iff).1 found⟩

theorem similar?_empty (candidates : List String) : similar? "" candidates = none := if_pos rfl

theorem similar?_of_ne (named : target ≠ "") : similar? target candidates =
    (candidates.find? fun c => lower c == lower target).or (candidates.find? (isSimilar target)) :=
  if_neg fun empty => named ((lower_eq_empty_iff target).1 empty)

/-- **What is suggested**: the first candidate that is the same, or else the first that is close. -/
theorem similar?_eq_some_iff : similar? target candidates = some name ↔ target ≠ "" ∧
    (IsFirst (fun c => lower c = lower target) candidates name ∨
      (∀ c ∈ candidates, lower c ≠ lower target) ∧ IsFirst (Close target) candidates name) := by
  by_cases named : target = ""
  · subst named
    simp [similar?_empty]
  · rw [similar?_of_ne named, Option.or_eq_some_iff, find?_eq_some_iff_isFirst fun c => beq_iff_eq,
      find?_eq_some_iff_isFirst fun c => isSimilar_iff, List.find?_eq_none]
    simp only [beq_iff_eq, ne_eq, named, not_false_eq_true, true_and]

/-- **When nothing is suggested**: for an empty name, and where no candidate is close. -/
theorem similar?_eq_none_iff : similar? target candidates = none ↔ target = "" ∨ ∀ c ∈ candidates, ¬ Close target c := by
  by_cases named : target = ""
  · subst named
    simp [similar?_empty]
  · rw [similar?_of_ne named, Option.or_eq_none_iff, List.find?_eq_none, List.find?_eq_none]
    simp only [beq_iff_eq, isSimilar_iff, named, false_or, and_iff_right_iff_imp]
    exact fun unlike c there same => unlike c there (.inl (contains_of_same same))

/-! ## Suggestions as one expects them -/

/-- Two names are alike: they are the same but for their case, one contains the other, or they are of similar length and
at least half of the characters of the first occur in the second. -/
def Alike (target name : String) : Prop :=
  lower name = lower target ∨ Contains name target ∨ Contains target name ∨
    SimilarLength target name ∧ (lower target).toList.length ≤ 2 * shared target name

instance : Decidable (Alike target name) := inferInstanceAs (Decidable (_ ∨ _))

/-- **Sensible suggestions**: only what is alike is suggested, of the candidates that are the same the first one, and
nothing that is alike is missed. -/
structure Sensible (target : String) (candidates : List String) : Prop where
  alike : ∀ name, similar? target candidates = some name → name ∈ candidates ∧ Alike target name
  same_first : ∀ name, IsFirst (fun c => lower c = lower target) candidates name →
    similar? target candidates = some name
  none_missed : target ≠ "" → similar? target candidates = none → ∀ c ∈ candidates, ¬ Alike target c

theorem close_not_alike_iff : Close target name ∧ ¬ Alike target name ↔
    ¬ Contains name target ∧ ¬ Contains target name ∧ SimilarLength target name ∧
      ((lower target).toList ≠ [] ∧ shared target name = 0 ∧ (lower target).utf8ByteSize ≤ 2 ∨
        (lower target).toList.length = 3 ∧ shared target name = 1 ∧ (lower target).utf8ByteSize = 3) := by
  rw [← most_but_not_half_iff, ← Nat.not_le]
  unfold Close Alike
  constructor
  · rintro ⟨close, unlike⟩
    obtain ⟨-, contains, contained, less⟩ := by simpa only [not_or] using unlike
    obtain ⟨long, most⟩ := (close.resolve_left contains).resolve_left contained
    exact ⟨contains, contained, long, most, fun half => less ⟨long, half⟩⟩
  · rintro ⟨contains, contained, long, most, less⟩
    refine ⟨.inr (.inr ⟨long, most⟩), ?_⟩
    rintro (same | inside | outside | ⟨-, half⟩)
    · exact contains (contains_of_same same)
    · exact contains inside
    · exact contained outside
    · exact less half

theorem alike_not_close_iff : Alike target name ∧ ¬ Close target name ↔
    ¬ Contains name target ∧ ¬ Contains target name ∧ SimilarLength target name ∧
      (lower target).toList.length ≤ 2 * shared target name ∧
      shared target name + 2 < (lower target).utf8ByteSize := by
  rw [← Nat.not_le]
  constructor
  · rintro ⟨alike, apart⟩
    have same : lower name ≠ lower target := fun same => apart (.inl (contains_of_same same))
    obtain ⟨contains, contained, less⟩ := by simpa only [Close, not_or] using apart
    obtain ⟨long, half⟩ := ((alike.resolve_left same).resolve_left contains).resolve_left contained
    exact ⟨contains, contained, long, half, fun most => less ⟨long, most⟩⟩
  · rintro ⟨contains, contained, long, half, less⟩
    refine ⟨.inr (.inr (.inr ⟨long, half⟩)), ?_⟩
    rintro (inside | outside | ⟨-, most⟩)
    · exact contains inside
    · exact contained outside
    · exact less most

/-- **When suggestions are sensible**: for an empty name if it is no candidate itself; for another one if a candidate is
the same, or if the first that is close is alike and, where none is close, none is alike. -/
theorem sensible_iff : Sensible target candidates ↔
    (target = "" → "" ∉ candidates) ∧
    (target ≠ "" → (∀ c ∈ candidates, lower c ≠ lower target) →
      (∀ name, IsFirst (Close target) candidates name → Alike target name) ∧
      ((∀ c ∈ candidates, ¬ Close target c) → ∀ c ∈ candidates, ¬ Alike target c)) := by
  constructor
  · intro sensible
    refine ⟨?_, fun named others => ⟨fun name first => ?_, fun apart => ?_⟩⟩
    · rintro rfl there
      obtain ⟨first, is⟩ := exists_isFirst (p := fun c => lower c = lower "") there rfl
      exact absurd (sensible.same_first first is) (by rw [similar?_empty]; nofun)
    · exact (sensible.alike name (similar?_eq_some_iff.2 ⟨named, .inr ⟨others, first⟩⟩)).2
    · exact sensible.none_missed named (similar?_eq_none_iff.2 (.inr apart))
  · rintro ⟨absent, expected⟩
    refine ⟨fun name found => ?_, fun name first => ?_, fun named nothing => ?_⟩
    · obtain ⟨named, first | ⟨others, first⟩⟩ := similar?_eq_some_iff.1 found
      · exact ⟨first.mem, .inl first.holds⟩
      · exact ⟨first.mem, (expected named others).1 name first⟩
    · refine similar?_eq_some_iff.2 ⟨fun empty => ?_, .inl first⟩
      have same := first.holds
      rw [empty, lower_empty, lower_eq_empty_iff] at same
      exact absent empty (same ▸ first.mem)
    · have apart := (similar?_eq_none_iff.1 nothing).resolve_left named
      exact (expected named fun c there same => apart c there (.inl (contains_of_same same))).2 apart

/-- **Suggestions, exactly, and when they are sensible.**  A name is suggested for another one that is not empty if it is
the first candidate that is the same but for its case, or if there is none of those and it is the first one that is
close.  Nothing is suggested for an empty name and where no candidate is close.  So suggestions are sensible unless an
empty name is itself a candidate, or no candidate is the same and either the first that is close is not alike, or none is
close though one is alike.  A name that is close but not alike is of similar length, and close to one or two characters of
two bytes together, of which it has none, or to three of one byte each, of which it has one.  A name that is alike but not
close has at least half of the characters, but fewer than there are bytes, less two. -/
theorem suggestions_by_similarity (target : String) (candidates : List String) :
    (∀ name, similar? target candidates = some name ↔ target ≠ "" ∧
      (IsFirst (fun c => lower c = lower target) candidates name ∨
        (∀ c ∈ candidates, lower c ≠ lower target) ∧ IsFirst (Close target) candidates name)) ∧
    (similar? target candidates = none ↔ target = "" ∨ ∀ c ∈ candidates, ¬ Close target c) ∧
    (Sensible target candidates ↔
      (target = "" → "" ∉ candidates) ∧
      (target ≠ "" → (∀ c ∈ candidates, lower c ≠ lower target) →
        (∀ name, IsFirst (Close target) candidates name → Alike target name) ∧
        ((∀ c ∈ candidates, ¬ Close target c) → ∀ c ∈ candidates, ¬ Alike target c))) ∧
    ∀ name,
      (Close target name ∧ ¬ Alike target name ↔
        ¬ Contains name target ∧ ¬ Contains target name ∧ SimilarLength target name ∧
          ((lower target).toList ≠ [] ∧ shared target name = 0 ∧ (lower target).utf8ByteSize ≤ 2 ∨
            (lower target).toList.length = 3 ∧ shared target name = 1 ∧ (lower target).utf8ByteSize = 3)) ∧
      (Alike target name ∧ ¬ Close target name ↔
        ¬ Contains name target ∧ ¬ Contains target name ∧ SimilarLength target name ∧
          (lower target).toList.length ≤ 2 * shared target name ∧
          shared target name + 2 < (lower target).utf8ByteSize) :=
  ⟨fun _ => similar?_eq_some_iff, similar?_eq_none_iff, sensible_iff,
    fun _ => ⟨close_not_alike_iff, alike_not_close_iff⟩⟩

/-- A name with another case, after one that it contains; a misspelt name; one that shares nothing with a name of two
letters; and all letters of a name in another order, which are too few for its bytes. -/
theorem suggestions_by_similarity_of_names :
    (similar? "de_de" ["DE", "de_DE", "DE_de"] = some "de_DE" ∧ Sensible "de_de" ["DE", "de_DE", "DE_de"]) ∧
    (similar? "qwertz" ["symbols", "QWERTY"] = some "QWERTY" ∧ Alike "qwertz" "QWERTY") ∧
    (similar? "xy" ["ab"] = some "ab" ∧ ¬ Alike "xy" "ab" ∧ ¬ Sensible "xy" ["ab"]) ∧
    (similar? "äöüé" ["éüöä"] = none ∧ Alike "äöüé" "éüöä" ∧ ¬ Sensible "äöüé" ["éüöä"]) := by
  obtain ⟨foundSame, -, sensible, -⟩ := suggestions_by_similarity "de_de" ["DE", "de_DE", "DE_de"]
  obtain ⟨foundClose, -, -, -⟩ := suggestions_by_similarity "qwertz" ["symbols", "QWERTY"]
  obtain ⟨found, -, -, apart⟩ := suggestions_by_similarity "xy" ["ab"]
  obtain ⟨-, nothing, -, missed⟩ := suggestions_by_similarity "äöüé" ["éüöä"]
  obtain ⟨close, unlike⟩ := (apart "ab").1.2 (by decide +kernel)
  obtain ⟨alike, far⟩ := (missed "éüöä").2.2 (by decide +kernel)
  have suggested : similar? "xy" ["ab"] = some "ab" :=
    (found "ab").2 ⟨by decide, .inr ⟨by decide +kernel, [], [], rfl, close, nofun⟩⟩
  have unsuggested : similar? "äöüé" ["éüöä"] = none :=
    nothing.2 (.inr fun c there => List.mem_singleton.1 there ▸ far)
  refine ⟨⟨(foundSame _).2 ⟨by decide, .inl ⟨["DE"], ["DE_de"], rfl, by decide +kernel, by decide +kernel⟩⟩,
      sensible.2 ⟨by decide, fun _ others => absurd (by decide +kernel) (others "de_DE" (by decide))⟩⟩,
    ⟨(foundClose _).2 ⟨by decide, .inr ⟨by decide +kernel, ["symbols"], [], rfl, by decide +kernel,
      by decide +kernel⟩⟩, by decide +kernel⟩,
    ⟨suggested, unlike, fun fine => unlike (fine.alike "ab" suggested).2⟩,
    unsuggested, alike, fun fine => fine.none_missed (by decide) unsuggested "éüöä" List.mem_cons_self alike⟩

-- Half of the characters may be too few, and no name is suggested for an empty one.
example : similar? "abcdef" ["abcxyz"] = none ∧ similar? "" [""] = none := by decide +kernel

end ScreenKeyboard.Text
