import Mathlib.Data.List.Forall2
import Mathlib.Tactic.Ring
import ScreenKeyboard.Page.Edit
/-!
# Placeholders

Keys are put in the place of a placeholder in one pass from the left, so what is put in is not looked at again
(`Row.Filled`).  The pass can be made on the page itself, row by row, and whether the placeholder was there at all is
known only at its end; then it turns out that a page without the placeholder was never changed (`Page.fillInPlace_eq`).
How many keys there are afterwards, and whether the label is still there, can be told from what was put in
(`Page.fill_in_one_pass`).
-/
namespace ScreenKeyboard

namespace Row

variable {placeholder : String} {keys row row' : Row}

/-- **A row in which keys stand in the place of a placeholder**, next to the other keys in their order. -/
inductive Filled (placeholder : String) (keys : Row) : Row → Row → Prop
  | nil : Filled placeholder keys [] []
  | put {key : Key} {row row' : Row} (drawn : key.visual = .label placeholder) (rest : Filled placeholder keys row row') :
      Filled placeholder keys (key :: row) (keys ++ row')
  | keep {key : Key} {row row' : Row} (other : key.visual ≠ .label placeholder)
      (rest : Filled placeholder keys row row') : Filled placeholder keys (key :: row) (key :: row')

def inPlaceOf (placeholder : String) (keys : Row) (key : Key) : Row := if key.hasLabel placeholder then keys else [key]

theorem inPlaceOf_of_drawn {key : Key} (drawn : key.visual = .label placeholder) :
    inPlaceOf placeholder keys key = keys := if_pos ((key.hasLabel_iff placeholder).2 drawn)

theorem inPlaceOf_of_other {key : Key} (other : key.visual ≠ .label placeholder) :
    inPlaceOf placeholder keys key = [key] := if_neg (mt (key.hasLabel_iff placeholder).1 other)

theorem filled_iff : Filled placeholder keys row row' ↔ row' = row.flatMap (inPlaceOf placeholder keys) := by
  constructor
  · intro filled
    induction filled with
    | nil => rfl
    | put drawn _ ih => rw [List.flatMap_cons, inPlaceOf_of_drawn drawn, ih]
    | keep other _ ih => rw [List.flatMap_cons, inPlaceOf_of_other other, ih, List.singleton_append]
  · rintro rfl
    induction row with
    | nil => exact .nil
    | cons key row ih =>
      rw [List.flatMap_cons]
      by_cases drawn : key.visual = .label placeholder
      · rw [inPlaceOf_of_drawn drawn]
        exact .put drawn ih
      · rw [inPlaceOf_of_other drawn]
        exact .keep drawn ih

def labelCount (row : Row) (label : String) : Nat := row.countP (·.hasLabel label)

theorem labelCount_cons_of_drawn {key : Key} (drawn : key.visual = .label placeholder) (row : Row) :
    labelCount (key :: row) placeholder = labelCount row placeholder + 1 :=
  List.countP_cons_of_pos ((key.hasLabel_iff placeholder).2 drawn)

theorem labelCount_cons_of_other {key : Key} (other : key.visual ≠ .label placeholder) (row : Row) :
    labelCount (key :: row) placeholder = labelCount row placeholder :=
  List.countP_cons_of_neg (mt (key.hasLabel_iff placeholder).1 other)

theorem labelCount_eq_zero_iff : labelCount row placeholder = 0 ↔ ∀ key ∈ row, key.visual ≠ .label placeholder := by
  simp [labelCount, List.countP_eq_zero]

theorem Filled.append {row₁ row₁' row₂ row₂' : Row} (first : Filled placeholder keys row₁ row₁')
    (second : Filled placeholder keys row₂ row₂') : Filled placeholder keys (row₁ ++ row₂) (row₁' ++ row₂') := by
  rw [filled_iff] at first second ⊢
  rw [first, second, List.flatMap_append]

/-- Rows that are filled one by one are filled as if they were one. -/
theorem filled_flatten {rows rows' : List Row} (filled : List.Forall₂ (Filled placeholder keys) rows rows') :
    Filled placeholder keys rows.flatten rows'.flatten := by
  induction filled with
  | nil => exact .nil
  | cons first _ ih => exact first.append ih

/-- Each place adds as many keys as are put in, and loses one. -/
theorem Filled.length (filled : Filled placeholder keys row row') :
    (row'.length : Int) = row.length + labelCount row placeholder * ((keys.length : Int) - 1) := by
  induction filled with
  | nil => simp [labelCount]
  | put drawn _ ih =>
    rw [labelCount_cons_of_drawn drawn, List.length_append, List.length_cons]
    push_cast
    rw [ih]
    ring
  | keep other _ ih =>
    rw [labelCount_cons_of_other other, List.length_cons, List.length_cons]
    push_cast
    rw [ih]
    ring

/-- A key of a row that was filled was put in for the placeholder, or it was there before and is no placeholder. -/
theorem Filled.mem_iff (filled : Filled placeholder keys row row') (key : Key) : key ∈ row' ↔
    (key ∈ keys ∧ ∃ k ∈ row, k.visual = .label placeholder) ∨ (key ∈ row ∧ key.visual ≠ .label placeholder) := by
  rw [filled_iff.1 filled, List.mem_flatMap]
  constructor
  · rintro ⟨k, there, inPlace⟩
    by_cases drawn : k.visual = .label placeholder
    · rw [inPlaceOf_of_drawn drawn] at inPlace
      exact .inl ⟨inPlace, k, there, drawn⟩
    · rw [inPlaceOf_of_other drawn, List.mem_singleton] at inPlace
      subst inPlace
      exact .inr ⟨there, drawn⟩
  · rintro (⟨put, k, there, drawn⟩ | ⟨there, other⟩)
    · exact ⟨k, there, by rwa [inPlaceOf_of_drawn drawn]⟩
    · exact ⟨key, there, by rw [inPlaceOf_of_other other]; exact List.mem_singleton_self key⟩

/-! ## In place -/

/-- A row that is taken apart and built again, with how many placeholders were met. -/
def rebuild (placeholder : String) (keys : Row) : Row → Row × Nat
  | [] => ([], 0)
  | key :: row =>
    let (rebuilt, count) := rebuild placeholder keys row
    if key.hasLabel placeholder then (keys ++ rebuilt, count + 1) else (key :: rebuilt, count)

theorem rebuild_eq : ∀ row : Row,
    rebuild placeholder keys row = (row.flatMap (inPlaceOf placeholder keys), labelCount row placeholder)
  | [] => rfl
  | key :: row => by
    rw [rebuild, rebuild_eq row, List.flatMap_cons]
    by_cases drawn : key.visual = .label placeholder
    · rw [inPlaceOf_of_drawn drawn, labelCount_cons_of_drawn drawn]
      exact if_pos ((key.hasLabel_iff placeholder).2 drawn)
    · rw [inPlaceOf_of_other drawn, labelCount_cons_of_other drawn]
      exact if_neg (mt (key.hasLabel_iff placeholder).1 drawn)

theorem flatMap_inPlaceOf_of_absent : ∀ {row : Row}, (∀ key ∈ row, key.visual ≠ .label placeholder) →
    row.flatMap (inPlaceOf placeholder keys) = row
  | [], _ => rfl
  | key :: row, absent => by
    obtain ⟨first, rest⟩ := List.forall_mem_cons.1 absent
    rw [List.flatMap_cons, inPlaceOf_of_other first, flatMap_inPlaceOf_of_absent rest, List.singleton_append]

/-- Rows that are visited one after the other, with how many placeholders were met.  A row that has none is passed by. -/
def rebuildAll (placeholder : String) (keys : Row) : List Row → List Row × Nat
  | [] => ([], 0)
  | row :: rows =>
    let (later, count) := rebuildAll placeholder keys rows
    if row.any (·.hasLabel placeholder) then
      let (rebuilt, own) := rebuild placeholder keys row
      (rebuilt :: later, own + count)
    else (row :: later, count)

theorem rebuildAll_eq : ∀ rows : List Row, rebuildAll placeholder keys rows =
    (rows.map fun row => row.flatMap (inPlaceOf placeholder keys), labelCount rows.flatten placeholder)
  | [] => rfl
  | row :: rows => by
    have count : labelCount (row :: rows).flatten placeholder =
        labelCount row placeholder + labelCount rows.flatten placeholder := List.countP_append
    rw [rebuildAll, rebuildAll_eq rows, rebuild_eq, List.map_cons, count]
    dsimp only
    by_cases met : row.any (·.hasLabel placeholder) = true
    · rw [if_pos met]
    · have absent : ∀ key ∈ row, key.visual ≠ .label placeholder := by simpa using met
      rw [if_neg met, flatMap_inPlaceOf_of_absent absent, labelCount_eq_zero_iff.2 absent, Nat.zero_add]

end Row

namespace Page

open Row (Filled labelCount inPlaceOf)

variable {page filled : Page} {placeholder : String} {keys : Row} {fault : Fault}

/-- The page after keys were put in the place of a placeholder, row by row, and the fault if there was no place. -/
def fillInPlace (page : Page) (placeholder : String) (keys : Row) : Page × Option Fault :=
  let (rows, count) := Row.rebuildAll placeholder keys page.rows
  (⟨rows⟩, if count = 0 then some (.missingKey placeholder) else none)

theorem fill_eq_error_iff : page.fill placeholder keys = .error fault ↔
    (∀ key ∈ page.keys, key.visual ≠ .label placeholder) ∧ fault = .missingKey placeholder := by
  rw [← replaceLabel?_eq_none_iff page placeholder keys]
  unfold fill
  cases page.replaceLabel? placeholder keys with
  | none => simp [eq_comm]
  | some filled => simp

theorem fill_eq_ok_iff : page.fill placeholder keys = .ok filled ↔
    (∃ key ∈ page.keys, key.visual = .label placeholder) ∧
      filled = ⟨page.rows.map fun row => row.flatMap (inPlaceOf placeholder keys)⟩ := by
  unfold fill replaceLabel? hasLabel
  by_cases met : page.keys.any (·.hasLabel placeholder) = true
  · have there : ∃ key ∈ page.keys, key.visual = .label placeholder := by simpa using met
    rw [if_pos met, and_iff_right there, Except.ok.injEq]
    exact eq_comm
  · rw [if_neg met]
    refine iff_of_false nofun fun there => met ?_
    simpa using there.1

/-- **The pass over the page fails without a trace**, and otherwise does what is asked for. -/
theorem fillInPlace_eq (page : Page) (placeholder : String) (keys : Row) :
    page.fillInPlace placeholder keys =
      match page.fill placeholder keys with
      | .ok filled => (filled, none)
      | .error fault => (page, some fault) := by
  unfold fillInPlace
  rw [Row.rebuildAll_eq]
  cases outcome : page.fill placeholder keys with
  | ok filled =>
    obtain ⟨⟨key, there, drawn⟩, rfl⟩ := fill_eq_ok_iff.1 outcome
    exact congrArg (Prod.mk _) (if_neg fun none => Row.labelCount_eq_zero_iff.1 none key there drawn)
  | error fault =>
    obtain ⟨absent, rfl⟩ := fill_eq_error_iff.1 outcome
    have same : (page.rows.map fun row => row.flatMap (inPlaceOf placeholder keys)) = page.rows :=
      (List.map_congr_left fun row inPage => Row.flatMap_inPlaceOf_of_absent fun key inRow =>
        absent key (List.mem_flatten.2 ⟨row, inPage, inRow⟩)).trans (List.map_id' _)
    exact Prod.ext (congrArg Page.mk same) (if_pos (Row.labelCount_eq_zero_iff.2 absent))

theorem filled_rows_of_fill (made : page.fill placeholder keys = .ok filled) :
    List.Forall₂ (Filled placeholder keys) page.rows filled.rows := by
  obtain ⟨-, rfl⟩ := fill_eq_ok_iff.1 made
  rw [List.forall₂_map_right_iff, List.forall₂_same]
  exact fun row _ => Row.filled_iff.2 rfl

theorem filled_keys_of_fill (made : page.fill placeholder keys = .ok filled) :
    Filled placeholder keys page.keys filled.keys := Row.filled_flatten (filled_rows_of_fill made)

/-- **To fill a placeholder fails exactly if no key of the page has that label**, and then nothing is changed.  Otherwise
every row is filled in one pass, and so the number of rows is the same, that of the keys grows by those that are put in
for each placeholder, and the label is gone unless it was put in again. -/
theorem fill_in_one_pass (page : Page) (placeholder : String) (keys : Row) :
    ((∃ fault, page.fill placeholder keys = .error fault) ↔ ∀ key ∈ page.keys, key.visual ≠ .label placeholder) ∧
    (∀ fault, page.fill placeholder keys = .error fault →
      fault = .missingKey placeholder ∧ page.fillInPlace placeholder keys = (page, some fault)) ∧
    ∀ filled, page.fill placeholder keys = .ok filled →
      page.fillInPlace placeholder keys = (filled, none) ∧
      List.Forall₂ (Filled placeholder keys) page.rows filled.rows ∧
      filled.rowCount = page.rowCount ∧
      (filled.keyCount : Int) = page.keyCount + labelCount page.keys placeholder * ((keys.length : Int) - 1) ∧
      (filled.hasLabel placeholder = true ↔ ∃ key ∈ keys, key.visual = .label placeholder) := by
  refine ⟨?_, fun fault failed => ⟨(fill_eq_error_iff.1 failed).2, ?_⟩, fun filled made => ⟨?_, ?_, ?_, ?_, ?_⟩⟩
  · simp only [fill_eq_error_iff, exists_and_left, exists_eq, and_true]
  · rw [fillInPlace_eq, failed]
  · rw [fillInPlace_eq, made]
  · exact filled_rows_of_fill made
  · exact (filled_rows_of_fill made).length_eq.symm
  · exact (filled_keys_of_fill made).length
  · obtain ⟨there, -⟩ := fill_eq_ok_iff.1 made
    have labelled : filled.hasLabel placeholder = true ↔ ∃ key ∈ filled.keys, key.visual = .label placeholder := by
      simp [hasLabel]
    rw [labelled]
    constructor
    · rintro ⟨key, inPage, drawn⟩
      rcases ((filled_keys_of_fill made).mem_iff key).1 inPage with ⟨put, -⟩ | ⟨-, other⟩
      · exact ⟨key, put, drawn⟩
      · exact absurd drawn other
    · rintro ⟨key, put, drawn⟩
      exact ⟨key, ((filled_keys_of_fill made).mem_iff key).2 (.inl ⟨put, there⟩), drawn⟩

/-- The label stands twice in one row, once in another one and as the name of an icon, and it is put in again; in the page
that was made of it, the placeholders are taken out altogether, and then there is none left to take out. -/
theorem fill_in_one_pass_of_same_label :
    ∃ page filled emptied : Page,
      page.rows = [[.label "x", .label "a", .label "x"], [.icon "x" 120], [.labelOffering "x" ["a"]]] ∧
      page.fill "x" [.label "b", .label "x"] = .ok filled ∧ filled.keyCount = 8 ∧ filled.hasLabel "x" = true ∧
      filled.fill "x" [] = .ok emptied ∧ emptied.rowCount = 3 ∧ emptied.keyCount = 5 ∧
      emptied.fillInPlace "x" [.label "b"] = (emptied, some (.missingKey "x")) := by
  let page : Page := ⟨[[.label "x", .label "a", .label "x"], [.icon "x" 120], [.labelOffering "x" ["a"]]]⟩
  let filled : Page := ⟨[[.label "b", .label "x", .label "a", .label "b", .label "x"], [.icon "x" 120],
    [.label "b", .label "x"]]⟩
  let emptied : Page := ⟨[[.label "b", .label "a", .label "b"], [.icon "x" 120], [.label "b"]]⟩
  obtain ⟨-, -, made⟩ := fill_in_one_pass page "x" [.label "b", .label "x"]
  obtain ⟨-, -, -, count, again⟩ := made filled rfl
  obtain ⟨-, -, made⟩ := fill_in_one_pass filled "x" []
  obtain ⟨-, -, rows, count', -⟩ := made emptied rfl
  obtain ⟨fails, traceless, -⟩ := fill_in_one_pass emptied "x" [.label "b"]
  obtain ⟨fault, failed⟩ := fails.2 (by decide)
  obtain ⟨rfl, unchanged⟩ := traceless fault failed
  exact ⟨page, filled, emptied, rfl, rfl, Int.ofNat.inj count, again.2 ⟨.label "x", by decide, rfl⟩, rfl, rows,
    Int.ofNat.inj count', unchanged⟩

end Page

end ScreenKeyboard
