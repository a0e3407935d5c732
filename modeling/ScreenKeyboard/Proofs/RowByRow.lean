import ScreenKeyboard.Page.Script
import ScreenKeyboard.Proofs.Steps
/-!
# Rows that are edited one by one

A list of changes, each of the row of some number, goes through as long as no number is zero and there is room for all
of them.  A page can be told from others by how many rows it has and by what each of them holds (`Page.ext_rowOr`), and
of both there is a closed form: the page grows to the largest number, and each row is what its own changes make of it,
one after the other (`Page.makeChanges_eq_ok_iff`).  So only the order of changes of one row matters, and not even that
of additions at its two ends (`Page.changes_row_by_row`).
-/
namespace ScreenKeyboard

/-- **The row that a change makes of a row**, whatever page it is on. -/
def RowChange.apply : RowChange → Row → Row
  | .set keys, _ => keys
  | .addLeft keys, row => keys ++ row
  | .addRight keys, row => row ++ keys

theorem RowChange.apply_ends (left right row : Row) : (RowChange.addRight right).apply ((addLeft left).apply row) =
    (addLeft left).apply ((addRight right).apply row) := List.append_assoc left row right

/-- The changes of one row, in their order, made to it. -/
def replayed (number : Nat) (changes : List NumberedChange) (row : Row) : Row :=
  (changes.filter (·.number = number)).foldl (fun row c => c.change.apply row) row

theorem replayed_cons (number : Nat) (c : NumberedChange) (changes : List NumberedChange) (row : Row) :
    replayed number (c :: changes) row =
      replayed number changes (if c.number = number then c.change.apply row else row) := by
  unfold replayed
  by_cases own : c.number = number
  · rw [List.filter_cons_of_pos (by simpa using own), List.foldl_cons, if_pos own]
  · rw [List.filter_cons_of_neg (by simpa using own), if_neg own]

theorem replayed_of_not_addressed {number : Nat} {changes : List NumberedChange}
    (unaddressed : ∀ c ∈ changes, c.number ≠ number) (row : Row) : replayed number changes row = row := by
  have none : changes.filter (·.number = number) = [] :=
    List.filter_eq_nil_iff.2 fun c there => by simpa using unaddressed c there
  rw [replayed, none, List.foldl_nil]

/-- Two changes next to each other can be swapped if they are of different rows, or if one is at the left end and the
other at the right end. -/
theorem replayed_swap {c d : NumberedChange}
    (apart : c.number = d.number → ∀ row, d.change.apply (c.change.apply row) = c.change.apply (d.change.apply row))
    (number : Nat) : ∀ (before after : List NumberedChange) (row : Row),
      replayed number (before ++ c :: d :: after) row = replayed number (before ++ d :: c :: after) row
  | [], after, row => by
    rw [List.nil_append, List.nil_append, replayed_cons, replayed_cons, replayed_cons, replayed_cons]
    by_cases hc : c.number = number
    · by_cases hd : d.number = number
      · rw [if_pos hc, if_pos hd, if_pos hd, if_pos hc, apart (hc.trans hd.symm)]
      · rw [if_pos hc, if_neg hd, if_neg hd, if_pos hc]
    · rw [if_neg hc, if_neg hc]
  | e :: before, after, row => by
    rw [List.cons_append, List.cons_append, replayed_cons, replayed_cons, replayed_swap apart number before]

namespace RowNumber

theorem val_inj {a b : RowNumber} : a.val = b.val ↔ a = b := by
  cases a
  cases b
  exact Iff.of_eq (RowNumber.mk.injEq _ _ _ _).symm

theorem ofNat?_val (n : RowNumber) : ofNat? n.val = some n := dif_pos n.pos

theorem ofNat?_eq_some_iff {number : Nat} {n : RowNumber} : ofNat? number = some n ↔ number = n.val := by
  constructor
  · intro h
    unfold ofNat? at h
    split at h
    · cases h
      rfl
    · cases h
  · rintro rfl
    exact n.ofNat?_val

end RowNumber

namespace Page

/-! ## A page by its rows -/

theorem row?_eq (page : Page) (n : RowNumber) :
    page.row? n = if n.val ≤ page.rowCount then some (page.rowOr n) else none := by
  have := n.pos
  unfold row? rowOr rowCount
  rw [List.getD_eq_getElem?_getD]
  split
  · rename_i there
    have inside : n.index < page.rows.length := by
      unfold RowNumber.index
      omega
    rw [List.getElem?_eq_getElem inside, Option.getD_some]
  · rename_i missing
    refine List.getElem?_eq_none ?_
    unfold RowNumber.index
    omega

/-- **Pages of as many rows that hold the same are the same.** -/
theorem ext_rowOr {a b : Page} (count : a.rowCount = b.rowCount) (same : ∀ n, a.rowOr n = b.rowOr n) : a = b := by
  have rows : a.rows = b.rows := by
    refine List.ext_getElem? fun i => ?_
    have row := row?_eq a ⟨i + 1, i.succ_pos⟩
    rw [count, same, ← row?_eq b] at row
    exact row
  cases a
  cases b
  exact congrArg Page.mk rows

/-! ## Changes of numbered rows -/

theorem rowCount_changeRow (page : Page) (n : RowNumber) (change : RowChange) :
    (page.changeRow n change).rowCount = max page.rowCount n.val := by
  cases change with
  | set keys => exact page.rowCount_setRow n keys
  | addLeft keys => exact page.rowCount_addLeft n keys
  | addRight keys => exact page.rowCount_addRight n keys

theorem rowOr_changeRow (page : Page) (n m : RowNumber) (change : RowChange) :
    (page.changeRow n change).rowOr m = if n.val = m.val then change.apply (page.rowOr m) else page.rowOr m := by
  have changed : (page.changeRow n change).rowOr m = if m = n then change.apply (page.rowOr n) else page.rowOr m := by
    cases change with
    | set keys => exact page.rowOr_setRow n m keys
    | addLeft keys => exact page.rowOr_addLeft n m keys
    | addRight keys => exact page.rowOr_addRight n m keys
  rw [changed]
  by_cases own : m = n
  · rw [if_pos own, if_pos (RowNumber.val_inj.2 own.symm), own]
  · rw [if_neg own, if_neg fun same => own (RowNumber.val_inj.1 same).symm]

/-- **A number stands for a row** unless it is zero or larger than all rows that there are or can be. -/
theorem reach_eq_ok_iff {page : Page} {number : Nat} {n : RowNumber} :
    page.reach number = .ok n ↔ number = n.val ∧ number ≤ max page.rowCount maxRows := by
  unfold reach
  cases known : RowNumber.ofNat? number with
  | none =>
    have other : number ≠ n.val := fun same => by
      rw [RowNumber.ofNat?_eq_some_iff.2 same] at known
      nomatch known
    simp [other]
  | some m =>
    have same : n.val = number ↔ m = n := by rw [RowNumber.ofNat?_eq_some_iff.1 known, RowNumber.val_inj, eq_comm]
    dsimp only
    split
    · rename_i beyond
      exact ⟨nofun, fun ⟨_, within⟩ => absurd within (by omega)⟩
    · rename_i within
      rw [Except.ok.injEq, ← same, eq_comm]
      exact ⟨fun number => ⟨number, by omega⟩, And.left⟩

theorem makeChange_eq_ok_iff {page next : Page} {c : NumberedChange} : page.makeChange c = .ok next ↔
    ∃ n : RowNumber, (c.number = n.val ∧ c.number ≤ max page.rowCount maxRows) ∧ page.changeRow n c.change = next := by
  rw [makeChange, map_eq_ok_iff]
  simp only [reach_eq_ok_iff]

/-- Growing makes no room, and takes none away. -/
theorem max_rowCount_changeRow {page : Page} {n : RowNumber} (within : n.val ≤ max page.rowCount maxRows)
    (change : RowChange) : max (page.changeRow n change).rowCount maxRows = max page.rowCount maxRows := by
  rw [rowCount_changeRow]
  omega

theorem makeChanges_cons (page : Page) (c : NumberedChange) (changes : List NumberedChange) :
    page.makeChanges (c :: changes) = page.makeChange c >>= (·.makeChanges changes) := rfl

/-- **What changes make of a page**, row by row, and when. -/
theorem makeChanges_eq_ok_iff : ∀ {changes : List NumberedChange} {page final : Page},
    page.makeChanges changes = .ok final ↔
      (∀ c ∈ changes, 1 ≤ c.number ∧ c.number ≤ max page.rowCount maxRows) ∧
      final.rowCount = (changes.map NumberedChange.number).foldl max page.rowCount ∧
      ∀ n : RowNumber, final.rowOr n = replayed n.val changes (page.rowOr n)
  | [], page, final => by
    constructor
    · intro made
      obtain rfl : page = final := Except.ok.inj made
      exact ⟨nofun, rfl, fun n => rfl⟩
    · rintro ⟨-, count, same⟩
      exact congrArg Except.ok (ext_rowOr count.symm fun n => (same n).symm)
  | c :: changes, page, final => by
    rw [makeChanges_cons, bind_eq_ok_iff, List.forall_mem_cons]
    simp only [makeChange_eq_ok_iff, makeChanges_eq_ok_iff]
    constructor
    · rintro ⟨next, ⟨n, ⟨number, within⟩, rfl⟩, later, count, rows⟩
      rw [number] at within
      rw [max_rowCount_changeRow within] at later
      refine ⟨⟨⟨number ▸ n.pos, number ▸ within⟩, later⟩, ?_, fun m => ?_⟩
      · rw [count, rowCount_changeRow, List.map_cons, List.foldl_cons, number]
      · rw [rows, rowOr_changeRow, replayed_cons, number]
    · rintro ⟨⟨⟨pos, within⟩, later⟩, count, rows⟩
      refine ⟨page.changeRow ⟨c.number, pos⟩ c.change, ⟨⟨c.number, pos⟩, ⟨rfl, within⟩, rfl⟩, ?_, ?_, fun m => ?_⟩
      · rwa [max_rowCount_changeRow (n := ⟨c.number, pos⟩) within]
      · rw [count, rowCount_changeRow, List.map_cons, List.foldl_cons]
      · rw [rows, rowOr_changeRow, replayed_cons]

/-- **Changes fail for a number that stands for no row, and for nothing else.** -/
theorem exists_makeChanges_iff (changes : List NumberedChange) (page : Page) :
    (∃ final, page.makeChanges changes = .ok final) ↔
      ∀ c ∈ changes, 1 ≤ c.number ∧ c.number ≤ max page.rowCount maxRows := by
  induction changes generalizing page with
  | nil => exact ⟨fun _ => nofun, fun _ => ⟨page, rfl⟩⟩
  | cons c changes ih =>
    refine ⟨fun ⟨final, made⟩ => (makeChanges_eq_ok_iff.1 made).1, fun numbered => ?_⟩
    obtain ⟨⟨pos, within⟩, later⟩ := List.forall_mem_cons.1 numbered
    have same := max_rowCount_changeRow (n := ⟨c.number, pos⟩) within c.change
    obtain ⟨final, made⟩ := (ih (page.changeRow ⟨c.number, pos⟩ c.change)).2 (by rwa [same])
    exact ⟨final, bind_eq_ok_iff.2 ⟨_, makeChange_eq_ok_iff.2 ⟨⟨c.number, pos⟩, ⟨rfl, within⟩, rfl⟩, made⟩⟩

/-! ## Orders that make no difference -/

variable {changes changes' : List NumberedChange}

/-- Changes in another order make the same page if they make the same of each row. -/
theorem toOption_makeChanges_of_perm (perm : changes'.Perm changes)
    (rows : ∀ number row, replayed number changes' row = replayed number changes row) (page : Page) :
    (page.makeChanges changes').toOption = (page.makeChanges changes).toOption := by
  have count := (perm.map NumberedChange.number).foldl_eq' (f := max) (fun _ _ _ _ _ => by omega) page.rowCount
  refine Option.ext fun final => ?_
  rw [toOption_eq_some_iff, toOption_eq_some_iff, makeChanges_eq_ok_iff, makeChanges_eq_ok_iff, count]
  simp only [perm.mem_iff, rows]

theorem perm_of_filter_eq
    (same : ∀ number, changes'.filter (·.number = number) = changes.filter (·.number = number)) :
    changes'.Perm changes := by
  refine List.perm_iff_count.2 fun c => ?_
  have own : ∀ cs : List NumberedChange, (cs.filter (·.number = c.number)).count c = cs.count c :=
    fun cs => List.count_filter (decide_eq_true rfl)
  rw [← own, same, own]

/-- **Row edits go through unless one asks for row zero or for more rows than there is room for, and they make of each
row what its own edits make of it**, on a page that grows to the last row that is asked for.  A single edit replaces its
row, or puts keys at one of its ends.  In any order that keeps the order in each row edits make the same page, and in a
row additions at the left end and at the right end can be swapped. -/
theorem changes_row_by_row (page : Page) (changes : List NumberedChange) :
    ((∃ final, page.makeChanges changes = .ok final) ↔
      ∀ c ∈ changes, 1 ≤ c.number ∧ c.number ≤ max page.rowCount maxRows) ∧
    (∀ (n : RowNumber) (keys : Row), n.val ≤ max page.rowCount maxRows →
      page.makeChanges [⟨n.val, .set keys⟩] = .ok (page.setRow n keys) ∧ (page.setRow n keys).rowOr n = keys ∧
      page.makeChanges [⟨n.val, .addLeft keys⟩] = .ok (page.addLeft n keys) ∧
        (page.addLeft n keys).rowOr n = keys ++ page.rowOr n ∧
      page.makeChanges [⟨n.val, .addRight keys⟩] = .ok (page.addRight n keys) ∧
        (page.addRight n keys).rowOr n = page.rowOr n ++ keys) ∧
    (∀ final, page.makeChanges changes = .ok final →
      final.rowCount = (changes.map NumberedChange.number).foldl max page.rowCount ∧
      ∀ n : RowNumber,
        final.row? n = (if n.val ≤ final.rowCount then some (replayed n.val changes (page.rowOr n)) else none) ∧
        ((∀ c ∈ changes, c.number ≠ n.val) → final.rowOr n = page.rowOr n)) ∧
    (∀ changes', (∀ number, changes'.filter (·.number = number) = changes.filter (·.number = number)) →
      (page.makeChanges changes').toOption = (page.makeChanges changes).toOption) ∧
    ∀ before number left right after,
      (page.makeChanges (before ++ ⟨number, .addLeft left⟩ :: ⟨number, .addRight right⟩ :: after)).toOption =
        (page.makeChanges (before ++ ⟨number, .addRight right⟩ :: ⟨number, .addLeft left⟩ :: after)).toOption := by
  refine ⟨exists_makeChanges_iff changes page, fun n keys within => ?_, fun final made => ?_, fun changes' same => ?_, ?_⟩
  · have single : ∀ change, page.makeChanges [⟨n.val, change⟩] = .ok (page.changeRow n change) := fun change =>
      bind_eq_ok_iff.2 ⟨_, makeChange_eq_ok_iff.2 ⟨n, ⟨rfl, within⟩, rfl⟩, rfl⟩
    refine ⟨single (.set keys), ?_, single (.addLeft keys), ?_, single (.addRight keys), ?_⟩
    · rw [rowOr_setRow, if_pos rfl]
    · rw [rowOr_addLeft, if_pos rfl]
    · rw [rowOr_addRight, if_pos rfl]
  · obtain ⟨-, count, rows⟩ := makeChanges_eq_ok_iff.1 made
    refine ⟨count, fun n => ⟨?_, fun unaddressed => ?_⟩⟩
    · rw [row?_eq, rows]
    · rw [rows, replayed_of_not_addressed unaddressed]
  · refine toOption_makeChanges_of_perm (perm_of_filter_eq same) (fun number row => ?_) page
    rw [replayed, replayed, same]
  · intro before number left right after
    refine toOption_makeChanges_of_perm ((List.Perm.swap _ _ after).append_left before) (fun n row => ?_) page
    exact replayed_swap (fun _ row => RowChange.apply_ends left right row) n before after row

/-- Two rows are edited in turn on a page of one row: one at both ends, the other first filled, then replaced and edited
with and without keys.  The rows between stay empty, and row zero is refused. -/
theorem changes_row_by_row_of_two_in_turn :
    ∃ final : Page, makeChanges ⟨[Key.labels ["a"]]⟩ [⟨4, .addRight (Key.labels ["f"])⟩,
        ⟨1, .addLeft (Key.labels ["b", "c"])⟩, ⟨4, .set (Key.labels ["g"])⟩, ⟨1, .addRight (Key.labels ["d", "e"])⟩,
        ⟨4, .addRight []⟩, ⟨4, .addLeft (Key.labels ["h"])⟩, ⟨4, .addRight (Key.labels ["i"])⟩] = .ok final ∧
      (makeChanges ⟨[Key.labels ["a"]]⟩ [⟨1, .addLeft (Key.labels ["b", "c"])⟩, ⟨1, .addRight (Key.labels ["d", "e"])⟩,
        ⟨4, .addRight (Key.labels ["f"])⟩, ⟨4, .set (Key.labels ["g"])⟩, ⟨4, .addRight []⟩,
        ⟨4, .addLeft (Key.labels ["h"])⟩, ⟨4, .addRight (Key.labels ["i"])⟩]).toOption = some final ∧
      final.rowCount = 4 ∧ final.row? 1 = some (Key.labels ["b", "c", "a", "d", "e"]) ∧ final.row? 2 = some [] ∧
      final.row? 4 = some (Key.labels ["h", "g", "i"]) ∧ final.row? 5 = none ∧
      (final.addRight 1 (Key.labels ["z"])).rowOr 1 = Key.labels ["b", "c", "a", "d", "e", "z"] ∧
      makeChanges final [⟨0, .addRight []⟩] = .error .zero := by
  let page : Page := ⟨[Key.labels ["a"]]⟩
  let inTurn : List NumberedChange := [⟨4, .addRight (Key.labels ["f"])⟩, ⟨1, .addLeft (Key.labels ["b", "c"])⟩,
    ⟨4, .set (Key.labels ["g"])⟩, ⟨1, .addRight (Key.labels ["d", "e"])⟩, ⟨4, .addRight []⟩,
    ⟨4, .addLeft (Key.labels ["h"])⟩, ⟨4, .addRight (Key.labels ["i"])⟩]
  let rowByRow : List NumberedChange := [⟨1, .addLeft (Key.labels ["b", "c"])⟩, ⟨1, .addRight (Key.labels ["d", "e"])⟩,
    ⟨4, .addRight (Key.labels ["f"])⟩, ⟨4, .set (Key.labels ["g"])⟩, ⟨4, .addRight []⟩,
    ⟨4, .addLeft (Key.labels ["h"])⟩, ⟨4, .addRight (Key.labels ["i"])⟩]
  obtain ⟨passes, -, holds, reorders, -⟩ := changes_row_by_row page inTurn
  obtain ⟨final, made⟩ := passes.2 (by decide)
  obtain ⟨count, rows⟩ := holds final made
  have four : final.rowCount = 4 := count
  rw [four] at rows
  have same : ∀ number, rowByRow.filter (·.number = number) = inTurn.filter (·.number = number) := by
    intro number
    by_cases one : 1 = number
    · subst one
      rfl
    · by_cases last : 4 = number
      · subst last
        rfl
      · simp [rowByRow, inTurn, one, last]
  have first : final.rowOr 1 = Key.labels ["b", "c", "a", "d", "e"] := by
    have row := row?_eq final 1
    rw [(rows 1).1, four] at row
    exact (Option.some.inj row).symm
  obtain ⟨-, -, -, -, -, added⟩ := (changes_row_by_row final []).2.1 1 (Key.labels ["z"]) (by rw [four]; decide)
  rw [first] at added
  exact ⟨final, made, (reorders rowByRow same).trans (toOption_eq_some_iff.2 made), four, (rows 1).1, (rows 2).1,
    (rows 4).1, (rows 5).1, added, rfl⟩

/-- A page does not grow to the row of every number. -/
theorem no_room_for_numbered_row :
    1 ≤ 1000000000000000000 ∧ makeChanges ⟨[]⟩ [⟨1000000000000000000, .set []⟩] = .error .noRoom := ⟨by decide, rfl⟩

end Page

end ScreenKeyboard
