import Mathlib.Data.Finset.Card
import ScreenKeyboard.Proofs.Defects
/-!
# Letters that come up again

Labels are read place by place, from left to right and from top to bottom, and those that were read are remembered from
row to row.  A place repeats a label exactly when the label stands at an earlier place, wherever that is
(`Page.mem_repeats_iff`).  Every other place adds a label, so the places that repeat one and the different labels are
together as many as all labels (`Page.length_repeats_add_dedup`).
-/
namespace ScreenKeyboard

/-- A label, and where it stands.  Rows, and the keys of a row, are counted from zero. -/
structure Place where
  row : Nat
  column : Nat
  label : String
deriving DecidableEq

namespace Place

/-- Whether a place is read before another one. -/
def Before (p q : Place) : Prop := p.row < q.row ∨ p.row = q.row ∧ p.column < q.column

theorem Before.irrefl (p : Place) : ¬ p.Before p := by
  unfold Before
  omega

theorem Before.asymm {p q : Place} (before : p.Before q) : ¬ q.Before p := by
  unfold Before at before ⊢
  omega

/-- The places whose label was seen, or stands at a place before them. -/
def repeats (seen : List String) : List Place → List Place
  | [] => []
  | p :: ps => (if seen.contains p.label then [p] else []) ++ repeats (p.label :: seen) ps

/-- It matters what was seen, and not in which order or how often. -/
theorem repeats_congr : ∀ (ps : List Place) {seen seen' : List String}, (∀ label, label ∈ seen ↔ label ∈ seen') →
    repeats seen ps = repeats seen' ps
  | [], _, _, _ => rfl
  | p :: ps, seen, seen', same => by
    have met : seen.contains p.label = seen'.contains p.label := by
      rw [Bool.eq_iff_iff, List.contains_iff_mem, List.contains_iff_mem, same]
    have later : ∀ label, label ∈ p.label :: seen ↔ label ∈ p.label :: seen' := fun label => by
      rw [List.mem_cons, List.mem_cons, same]
    rw [repeats, repeats, met, repeats_congr ps later]

theorem repeats_append : ∀ (ps qs : List Place) (seen : List String),
    repeats seen (ps ++ qs) = repeats seen ps ++ repeats (ps.map Place.label ++ seen) qs
  | [], _, _ => rfl
  | p :: ps, qs, seen => by
    rw [List.cons_append, repeats, repeats, repeats_append ps qs, List.append_assoc, List.map_cons, List.cons_append]
    congr 2
    -- The first label stands behind those of the others on one side, and before them on the other.
    refine repeats_congr qs fun label => ?_
    simp only [List.mem_append, List.mem_cons]
    exact or_left_comm

theorem sublist_repeats : ∀ (ps : List Place) (seen : List String), (repeats seen ps).Sublist ps
  | [], _ => List.Sublist.slnil
  | p :: ps, seen => by
    rw [repeats]
    split
    · exact (sublist_repeats ps _).cons_cons p
    · exact (sublist_repeats ps _).cons p

/-- **A place repeats a label exactly when the label was seen or stands at an earlier place**, as long as places are in
order. -/
theorem mem_repeats_iff {p : Place} : ∀ {ps : List Place}, ps.Pairwise Before → ∀ {seen : List String},
    p ∈ repeats seen ps ↔ p ∈ ps ∧ (p.label ∈ seen ∨ ∃ q ∈ ps, q.Before p ∧ q.label = p.label)
  | [], _, seen => by simp [repeats]
  | first :: ps, ordered, seen => by
    obtain ⟨before, rest⟩ := List.pairwise_cons.1 ordered
    have only : first ∉ ps := fun there => Before.irrefl first (before first there)
    rw [repeats, List.mem_append, mem_repeats_iff rest, List.mem_cons, List.mem_cons, List.exists_mem_cons_iff]
    by_cases same : p = first
    · subst same
      have noneEarlier : ¬ ∃ q ∈ ps, q.Before p ∧ q.label = p.label :=
        fun ⟨q, there, earlier, _⟩ => earlier.asymm (before q there)
      simp [only, noneEarlier, Before.irrefl]
    · have own : p ∉ if seen.contains first.label then [first] else [] := by
        split <;> simp [same]
      by_cases there : p ∈ ps
      · -- The first place is before this one, so its label counts as seen.
        have earlier : first.Before p := before p there
        rw [or_iff_right own, eq_comm (a := p.label)]
        simp only [same, there, earlier, true_and, false_or, or_assoc, or_left_comm]
      · rw [or_iff_right own]
        simp [same, there]

/-- **Every place that does not repeat a label adds one.** -/
theorem length_repeats_add_card : ∀ (ps : List Place) (seen : List String),
    (repeats seen ps).length + (ps.map Place.label ++ seen).toFinset.card = ps.length + seen.toFinset.card
  | [], seen => by simp [repeats]
  | p :: ps, seen => by
    have rest := length_repeats_add_card ps (p.label :: seen)
    have labels : (p.label :: (ps.map Place.label ++ seen)).toFinset =
        (ps.map Place.label ++ p.label :: seen).toFinset := by
      ext label
      simp
    rw [repeats, List.length_append, List.map_cons, List.cons_append, labels, List.length_cons]
    rw [List.toFinset_cons] at rest
    by_cases met : p.label ∈ seen
    · rw [Finset.insert_eq_of_mem (by simpa using met)] at rest
      simp only [List.contains_iff_mem.2 met, if_true, List.length_singleton]
      omega
    · rw [Finset.card_insert_of_notMem (by simpa using met)] at rest
      simp only [List.contains_iff_mem, met, if_false, List.length_nil]
      omega

end Place

/-! ## On a page -/

namespace Page

def labelAt? (page : Page) (row column : Nat) : Option String :=
  (page.rows[row]?.bind (·[column]?)).bind Key.label?

def labels (page : Page) : List String := page.keys.filterMap Key.label?

def placesOfRow (row : Nat) (keys : List (Key × Nat)) : List Place :=
  keys.filterMap fun key => key.1.label?.map (Place.mk row key.2)

/-- The places that have labels, from top to bottom and from left to right. -/
def places (page : Page) : List Place := page.rows.zipIdx.flatMap fun row => placesOfRow row.2 row.1.zipIdx

/-- The places whose label stands at an earlier one. -/
def repeats (page : Page) : List Place := Place.repeats [] page.places

theorem mem_placesOfRow_iff {place : Place} {row : Nat} {keys : List (Key × Nat)} : place ∈ placesOfRow row keys ↔
    place.row = row ∧ ∃ key, (key, place.column) ∈ keys ∧ key.label? = some place.label := by
  unfold placesOfRow
  rw [List.mem_filterMap]
  constructor
  · rintro ⟨⟨key, column⟩, there, found⟩
    obtain ⟨label, drawn, rfl⟩ := Option.map_eq_some_iff.1 found
    exact ⟨rfl, key, there, drawn⟩
  · rintro ⟨rfl, key, there, drawn⟩
    exact ⟨(key, place.column), there, Option.map_eq_some_iff.2 ⟨place.label, drawn, rfl⟩⟩

theorem mem_places_iff (page : Page) (place : Place) :
    place ∈ page.places ↔ page.labelAt? place.row place.column = some place.label := by
  unfold places labelAt?
  rw [List.mem_flatMap, Option.bind_eq_some_iff]
  constructor
  · rintro ⟨⟨keys, row⟩, inPage, found⟩
    obtain ⟨rfl, key, inRow, drawn⟩ := mem_placesOfRow_iff.1 found
    rw [List.mem_zipIdx_iff_getElem?] at inPage inRow
    exact ⟨key, Option.bind_eq_some_iff.2 ⟨keys, inPage, inRow⟩, drawn⟩
  · rintro ⟨key, there, drawn⟩
    obtain ⟨keys, inPage, inRow⟩ := Option.bind_eq_some_iff.1 there
    exact ⟨(keys, place.row), List.mem_zipIdx_iff_getElem?.2 inPage,
      mem_placesOfRow_iff.2 ⟨rfl, key, List.mem_zipIdx_iff_getElem?.2 inRow, drawn⟩⟩

theorem pairwise_placesOfRow (row : Nat) (keys : List Key) : (placesOfRow row keys.zipIdx).Pairwise Place.Before := by
  unfold placesOfRow
  rw [List.pairwise_filterMap]
  refine (pairwise_zipIdx keys 0).imp fun {a b} before => ?_
  intro p hp q hq
  obtain ⟨_, -, rfl⟩ := Option.map_eq_some_iff.1 hp
  obtain ⟨_, -, rfl⟩ := Option.map_eq_some_iff.1 hq
  exact .inr ⟨rfl, before⟩

theorem pairwise_places (page : Page) : page.places.Pairwise Place.Before := by
  unfold places
  rw [List.pairwise_flatMap]
  refine ⟨fun row _ => pairwise_placesOfRow row.2 row.1, (pairwise_zipIdx page.rows 0).imp fun {r s} before => ?_⟩
  intro p hp q hq
  refine .inl ?_
  rw [(mem_placesOfRow_iff.1 hp).1, (mem_placesOfRow_iff.1 hq).1]
  exact before

theorem map_label_placesOfRow (row : Nat) : ∀ (keys : List Key) (index : Nat),
    (placesOfRow row (keys.zipIdx index)).map Place.label = keys.filterMap Key.label?
  | [], _ => rfl
  | key :: keys, index => by
    have rest := map_label_placesOfRow row keys (index + 1)
    unfold placesOfRow at rest ⊢
    rw [List.zipIdx_cons, List.filterMap_cons, List.filterMap_cons]
    cases key.label? with
    | none => exact rest
    | some label => exact congrArg (label :: ·) rest

theorem map_label_places (page : Page) : page.places.map Place.label = page.labels := by
  have rows : ∀ (rows : List Row) (index : Nat),
      ((rows.zipIdx index).flatMap fun row => placesOfRow row.2 row.1.zipIdx).map Place.label =
        rows.flatten.filterMap Key.label? := by
    intro rows
    induction rows with
    | nil => exact fun _ => rfl
    | cons row rows ih =>
      intro index
      rw [List.zipIdx_cons, List.flatMap_cons, List.map_append, ih, map_label_placesOfRow, List.flatten_cons,
        List.filterMap_append]
  exact rows page.rows 0

/-- **A place repeats a label exactly when the label stands there and at an earlier place.** -/
theorem mem_repeats_iff (page : Page) (place : Place) : place ∈ page.repeats ↔
    page.labelAt? place.row place.column = some place.label ∧
      ∃ row column, (row < place.row ∨ row = place.row ∧ column < place.column) ∧
        page.labelAt? row column = some place.label := by
  unfold repeats
  rw [Place.mem_repeats_iff page.pairwise_places, mem_places_iff]
  refine and_congr_right fun _ => ?_
  rw [or_iff_right List.not_mem_nil]
  constructor
  · rintro ⟨earlier, there, before, same⟩
    exact ⟨earlier.row, earlier.column, before, same ▸ (page.mem_places_iff earlier).1 there⟩
  · rintro ⟨row, column, before, there⟩
    exact ⟨⟨row, column, place.label⟩, (page.mem_places_iff _).2 there, before, rfl⟩

theorem nodup_repeats (page : Page) : page.repeats.Nodup := by
  refine (page.pairwise_places.sublist (Place.sublist_repeats _ _)).imp fun {p q} before => ?_
  rintro rfl
  exact Place.Before.irrefl p before

/-- **The places that repeat a label and the different labels are together as many as all labels.** -/
theorem length_repeats_add_dedup (page : Page) :
    page.repeats.length + page.labels.dedup.length = page.labels.length := by
  have counted := Place.length_repeats_add_card page.places []
  rw [List.append_nil, map_label_places, List.card_toFinset, ← page.places.length_map Place.label,
    map_label_places] at counted
  exact counted

theorem repeats_eq_nil_iff (page : Page) : page.repeats = [] ↔ page.labels.Nodup := by
  have counted := page.length_repeats_add_dedup
  rw [← List.length_eq_zero_iff]
  constructor
  · intro none
    have all : page.labels.dedup = page.labels := (List.dedup_sublist _).eq_of_length (by omega)
    rw [← all]
    exact List.nodup_dedup _
  · intro different
    rw [different.dedup] at counted
    omega

end Page

end ScreenKeyboard
