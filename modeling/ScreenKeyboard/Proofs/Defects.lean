import ScreenKeyboard.Proofs.CheckedDefinition
import ScreenKeyboard.Proofs.FieldPaths
/-!
# Defects of a grid

What makes a page unusable is that it has no rows or too many, that a row is empty, or that a key shows no letter
(`Page.Has`).  A check looks for all of these, whatever it has found before, and reports an error for each of them, in
the order of the page and under a path of its own (`Grid.check_reports_defects`).
-/
namespace ScreenKeyboard

/-- What makes a page unusable.  Rows, and the keys of a row, are counted from zero. -/
inductive Defect where
  | noRows
  | tooManyRows (count : Nat)
  | emptyRow (row : Nat)
  | blankKey (row column : Nat)
deriving DecidableEq

namespace Defect

/-- Where the defect is in its field. -/
def place : Defect → List Nat
  | .noRows => []
  | .tooManyRows _ => []
  | .emptyRow row => [row]
  | .blankKey row column => [row, column]

def message : Defect → String
  | .noRows => "Grid has no rows"
  | .tooManyRows count =>
    "Grid has " ++ toString count ++ " rows, at most " ++ toString maxGridRows ++ " are allowed"
  | .emptyRow _ => "Row is empty"
  | .blankKey _ _ => "Key label is empty"

def remedy : Defect → String
  | .noRows => "Add at least one row of letters"
  | .tooManyRows _ => "Remove the extra rows"
  | .emptyRow _ => "Remove the row or add keys to it"
  | .blankKey _ _ => "Provide the letter drawn on the key"

def issue (field : String) (defect : Defect) : Issue :=
  .error defect.message (Grid.placePath field defect.place) (some defect.remedy)

@[simp] theorem isError_issue (field : String) (defect : Defect) : (defect.issue field).isError = true := rfl

end Defect

/-- Whether a key shows no letter: it is drawn as an icon, or with an empty label. -/
def Key.Letterless (key : Key) : Prop := (∃ name, key.visual = .icon name) ∨ key.visual = .label ""

namespace Page

/-- **The defects that a page has.** -/
inductive Has (page : Page) : Defect → Prop
  | noRows (none : page.rows = []) : Has page .noRows
  | tooManyRows (many : maxGridRows < page.rowCount) : Has page (.tooManyRows page.rowCount)
  | emptyRow {row : Nat} (there : page.rows[row]? = some []) : Has page (.emptyRow row)
  | blankKey {row column : Nat} {keys : Row} {key : Key} (inPage : page.rows[row]? = some keys)
    (inRow : keys[column]? = some key) (blank : key.Letterless) : Has page (.blankKey row column)

def countDefects (page : Page) : List Defect :=
  if page.rows = [] then [.noRows]
  else if maxGridRows < page.rowCount then [.tooManyRows page.rowCount] else []

def blankKeys (row : Nat) (keys : List (Key × Nat)) : List Defect :=
  keys.filterMap fun key => if Grid.letter? key.1 = none then some (.blankKey row key.2) else none

def rowDefects (row : Row × Nat) : List Defect :=
  if row.1 = [] then [.emptyRow row.2] else blankKeys row.2 row.1.zipIdx

/-- All defects of a page, from top to bottom and from left to right. -/
def defects (page : Page) : List Defect := page.countDefects ++ page.rows.zipIdx.flatMap rowDefects

end Page

/-! ## Which defects there are -/

theorem Grid.letter?_eq_none_iff (key : Key) : letter? key = none ↔ key.Letterless := by
  unfold letter? Key.label? Key.Letterless
  cases key.visual with
  | icon name => simp [Visual.label?]
  | label text =>
    simp only [Visual.label?, Visual.label.injEq, reduceCtorEq, exists_false, false_or]
    constructor
    · intro none
      split at none
      · rename_i empty
        exact Option.some.inj empty
      · cases none
    · rintro rfl
      rfl

namespace Page

variable {page : Page} {defect : Defect}

theorem mem_countDefects_iff : defect ∈ page.countDefects ↔
    (page.rows = [] ∧ defect = .noRows) ∨ (maxGridRows < page.rowCount ∧ defect = .tooManyRows page.rowCount) := by
  unfold countDefects rowCount
  by_cases none : page.rows = []
  · simp [none]
  · by_cases many : maxGridRows < page.rows.length
    · simp [none, many]
    · simp [none, many]

theorem mem_blankKeys_iff {row : Nat} {keys : List (Key × Nat)} : defect ∈ blankKeys row keys ↔
    ∃ key column, (key, column) ∈ keys ∧ key.Letterless ∧ defect = .blankKey row column := by
  unfold blankKeys
  rw [List.mem_filterMap]
  constructor
  · rintro ⟨⟨key, column⟩, there, found⟩
    by_cases blank : Grid.letter? key = none
    · rw [if_pos blank, Option.some.injEq] at found
      exact ⟨key, column, there, (Grid.letter?_eq_none_iff key).1 blank, found.symm⟩
    · rw [if_neg blank] at found
      cases found
  · rintro ⟨key, column, there, blank, rfl⟩
    exact ⟨(key, column), there, if_pos ((Grid.letter?_eq_none_iff key).2 blank)⟩

theorem mem_rowDefects_iff {keys : Row} {row : Nat} : defect ∈ rowDefects (keys, row) ↔
    (keys = [] ∧ defect = .emptyRow row) ∨
      ∃ key column, keys[column]? = some key ∧ key.Letterless ∧ defect = .blankKey row column := by
  unfold rowDefects
  by_cases empty : keys = []
  · simp [empty]
  · simp [empty, mem_blankKeys_iff, List.mem_zipIdx_iff_getElem?]

/-- **The defects that are listed are those that the page has.** -/
theorem mem_defects_iff (page : Page) (defect : Defect) : defect ∈ page.defects ↔ page.Has defect := by
  unfold defects
  rw [List.mem_append, mem_countDefects_iff, List.mem_flatMap]
  constructor
  · rintro ((⟨none, rfl⟩ | ⟨many, rfl⟩) | ⟨⟨keys, row⟩, inPage, found⟩)
    · exact .noRows none
    · exact .tooManyRows many
    · rw [List.mem_zipIdx_iff_getElem?] at inPage
      rcases mem_rowDefects_iff.1 found with ⟨rfl, rfl⟩ | ⟨key, column, inRow, blank, rfl⟩
      · exact .emptyRow inPage
      · exact .blankKey inPage inRow blank
  · intro has
    cases has with
    | noRows none => exact .inl (.inl ⟨none, rfl⟩)
    | tooManyRows many => exact .inl (.inr ⟨many, rfl⟩)
    | @emptyRow row there =>
      exact .inr ⟨([], row), List.mem_zipIdx_iff_getElem?.2 there, mem_rowDefects_iff.2 (.inl ⟨rfl, rfl⟩)⟩
    | @blankKey row column keys key inPage inRow blank =>
      exact .inr ⟨(keys, row), List.mem_zipIdx_iff_getElem?.2 inPage,
        mem_rowDefects_iff.2 (.inr ⟨key, column, inRow, blank, rfl⟩)⟩

end Page

/-! ## In which order -/

theorem pairwise_zipIdx {α : Type} : ∀ (l : List α) (n : Nat), (l.zipIdx n).Pairwise fun a b => a.2 < b.2
  | [], _ => .nil
  | _ :: l, n => by
    rw [List.zipIdx_cons, List.pairwise_cons]
    exact ⟨fun _ later => List.le_snd_of_mem_zipIdx later, pairwise_zipIdx l (n + 1)⟩

namespace Page

variable {defect : Defect}

theorem exists_place_of_mem_rowDefects {keys : Row} {row : Nat} (h : defect ∈ rowDefects (keys, row)) :
    ∃ inner, defect.place = row :: inner := by
  rcases mem_rowDefects_iff.1 h with ⟨-, rfl⟩ | ⟨key, column, -, -, rfl⟩
  · exact ⟨[], rfl⟩
  · exact ⟨[column], rfl⟩

theorem pairwise_rowDefects (row : Row × Nat) : (rowDefects row).Pairwise fun a b => a.place < b.place := by
  unfold rowDefects
  split
  · exact List.pairwise_singleton _ _
  · unfold blankKeys
    rw [List.pairwise_filterMap]
    refine (pairwise_zipIdx row.1 0).imp fun {a b} before => ?_
    intro d hd e he
    split at hd
    · split at he
      · cases hd
        cases he
        simpa [Defect.place, List.cons_lt_cons_iff] using before
      · cases he
    · cases hd

/-- **The defects of a page are listed row by row, and in a row key by key**, after what is wrong with their number. -/
theorem pairwise_defects (page : Page) : page.defects.Pairwise fun a b => a.place < b.place := by
  have rows : (page.rows.zipIdx.flatMap rowDefects).Pairwise fun a b => a.place < b.place := by
    rw [List.pairwise_flatMap]
    refine ⟨fun row _ => pairwise_rowDefects row, (pairwise_zipIdx page.rows 0).imp fun {r s} before => ?_⟩
    intro d hd e he
    obtain ⟨p, hp⟩ := exists_place_of_mem_rowDefects hd
    obtain ⟨q, hq⟩ := exists_place_of_mem_rowDefects he
    rw [hp, hq, List.cons_lt_cons_iff]
    exact .inl before
  unfold defects
  rw [List.pairwise_append]
  refine ⟨?_, rows, fun d hd e he => ?_⟩
  · unfold countDefects
    split
    · exact List.pairwise_singleton _ _
    · split
      · exact List.pairwise_singleton _ _
      · exact .nil
  · obtain ⟨row, -, he⟩ := List.mem_flatMap.1 he
    obtain ⟨q, hq⟩ := exists_place_of_mem_rowDefects he
    have outside : d.place = [] := by
      rcases mem_countDefects_iff.1 hd with ⟨-, rfl⟩ | ⟨-, rfl⟩ <;> rfl
    rw [outside, hq]
    exact List.nil_lt_cons _ _

end Page

namespace Defect

theorem field_ne_of_lt {field : String} {d e : Defect} (h : d.place < e.place) :
    (d.issue field).field ≠ (e.issue field).field := by
  intro same
  have place : d.place = e.place := Grid.placePath_inj same
  rw [place] at h
  exact List.lt_irrefl _ h

/-- No two fields have a path in common when neither name starts with the other. -/
theorem field_ne_of_apart {field other : String} (apart : ¬ field.toList <+: other.toList)
    (apart' : ¬ other.toList <+: field.toList) (d e : Defect) : (d.issue field).field ≠ (e.issue other).field := by
  intro same
  have left := Grid.prefix_placePath d.place field
  have right := Grid.prefix_placePath e.place other
  change Grid.placePath field d.place = Grid.placePath other e.place at same
  rw [same] at left
  exact (List.prefix_or_prefix_of_prefix left right).elim apart apart'

end Defect

/-! ## What a check reports -/

namespace Grid

theorem filter_isError_keyIssues (field : String) (row : Nat) : ∀ (keys : List Key) (seen : List String) (index : Nat),
    (keyIssues (itemPath field row) seen index keys).filter Issue.isError =
      (Page.blankKeys row (keys.zipIdx index)).map (Defect.issue field)
  | [], _, _ => rfl
  | key :: keys, seen, index => by
    rw [keyIssues, List.zipIdx_cons, Page.blankKeys, List.filterMap_cons]
    cases drawn : letter? key with
    | none =>
      rw [List.filter_cons_of_pos (Issue.isError_error _ _ _), filter_isError_keyIssues field row keys]
      rfl
    | some letter =>
      -- A letter that comes up again is worth a warning, which is no error.
      have again : (if seen.contains letter then
          [Issue.warning ("Duplicate letter '" ++ letter ++ "'") (itemPath (itemPath field row) index) none]
          else []).filter Issue.isError = [] := by
        split <;> rfl
      rw [List.filter_append, again, List.nil_append, filter_isError_keyIssues field row keys]
      rfl

theorem filter_isError_rowIssues (field : String) : ∀ (rows : List Row) (seen : List String) (index : Nat),
    (rowIssues field seen index rows).filter Issue.isError =
      ((rows.zipIdx index).flatMap Page.rowDefects).map (Defect.issue field)
  | [], _, _ => rfl
  | row :: rows, seen, index => by
    rw [rowIssues, List.filter_append, List.zipIdx_cons, List.flatMap_cons, List.map_append,
      filter_isError_rowIssues field rows, Page.rowDefects]
    by_cases empty : row = []
    · rw [if_pos empty, if_pos empty]
      rfl
    · rw [if_neg empty, if_neg empty, filter_isError_keyIssues]

/-- **The errors of a page are its defects**, each reported once. -/
theorem filter_isError_pageIssues (field : String) (page : Page) :
    (pageIssues field page).filter Issue.isError = page.defects.map (Defect.issue field) := by
  unfold pageIssues Page.defects Page.countDefects
  by_cases none : page.rows = []
  · rw [if_pos none, if_pos none, none]
    rfl
  · rw [if_neg none, if_neg none, List.filter_append, List.map_append, filter_isError_rowIssues]
    congr 1
    unfold countIssues
    by_cases many : maxGridRows < page.rowCount
    · rw [if_pos many, if_pos many]
      rfl
    · rw [if_neg many, if_neg many]
      split
      · rfl
      · split <;> rfl

/-- The errors of a grid: the defects of the rows of phones, and after them those of the rows of tablets if there are
any of their own. -/
def defectIssues (grid : Grid) : List Issue :=
  grid.phone.defects.map (Defect.issue "phone_rows") ++
    ((grid.tablet.map Page.defects).getD []).map (Defect.issue "tablet_rows")

theorem filter_isError_issues (grid : Grid) (accented : List String) :
    (grid.issues accented).filter Issue.isError = grid.defectIssues := by
  have accents : (accented.flatMap grid.accentIssues).filter Issue.isError = [] := by
    rw [Issue.filter_isError_eq_nil_iff]
    intro issue hi
    obtain ⟨letter, -, hi⟩ := List.mem_flatMap.1 hi
    exact noError_accentIssues grid letter issue hi
  rw [issues, List.filter_append, List.filter_append, accents, List.append_nil, filter_isError_pageIssues, defectIssues]
  cases grid.tablet with
  | none => simp
  | some page => exact congrArg (_ ++ ·) (filter_isError_pageIssues "tablet_rows" page)

theorem check_eq_error_iff (grid : Grid) (accented : List String) (fault : Fault) :
    grid.check accented = .error fault ↔ grid.defectIssues ≠ [] ∧ fault = .invalid grid.defectIssues none := by
  rw [check, Issue.settle_eq_error_iff, ← Issue.filter_isError_eq_nil_iff, filter_isError_issues]

theorem defectIssues_ne_nil_iff (grid : Grid) :
    grid.defectIssues ≠ [] ↔ ∃ page, (page = grid.phone ∨ grid.tablet = some page) ∧ ∃ defect, page.Has defect := by
  have listed : ∀ page : Page, page.defects ≠ [] ↔ ∃ defect, page.Has defect := by
    intro page
    rw [← List.isEmpty_eq_false_iff, List.isEmpty_eq_false_iff_exists_mem]
    exact exists_congr page.mem_defects_iff
  simp only [← listed]
  unfold defectIssues
  cases grid.tablet with
  | none => simp
  | some tablet =>
    simp only [ne_eq, List.append_eq_nil_iff, List.map_eq_nil_iff, Classical.not_and_iff_not_or_not]
    simp [or_and_right, exists_or]

theorem nodup_field_defectIssues (grid : Grid) : (grid.defectIssues.map Issue.field).Nodup := by
  have page : ∀ (field : String) (page : Page), ((page.defects.map (Defect.issue field)).map Issue.field).Nodup := by
    intro field page
    rw [List.Nodup, List.map_map, List.pairwise_map]
    exact page.pairwise_defects.imp Defect.field_ne_of_lt
  unfold defectIssues
  cases grid.tablet with
  | none => simpa using page "phone_rows" grid.phone
  | some tablet =>
    rw [List.map_append, List.nodup_append]
    refine ⟨page _ _, page _ _, ?_⟩
    intro a ha b hb
    simp only [List.map_map, List.mem_map, Function.comp_apply] at ha hb
    obtain ⟨d, -, rfl⟩ := ha
    obtain ⟨e, -, rfl⟩ := hb
    exact Defect.field_ne_of_apart (by decide) (by decide) d e

/-- **A grid fails its check exactly when the rows of phones, or those of tablets if there are any, have a defect**, and
then the fault holds an error for each defect and nothing else, whichever letters have accents.  The errors are in the
order of the rows, those of phones first, no two of them are under the same path, and there are as many of them as there
are defects. -/
theorem check_reports_defects (grid : Grid) (accented : List String) :
    ((∃ fault, grid.check accented = .error fault) ↔
      ∃ page, (page = grid.phone ∨ grid.tablet = some page) ∧ ∃ defect, page.Has defect) ∧
    (∀ fault, grid.check accented = .error fault → fault = .invalid grid.defectIssues none) ∧
    (∀ issue ∈ grid.defectIssues, issue.isError = true) ∧ (grid.defectIssues.map Issue.field).Nodup ∧
    grid.defectIssues.length = grid.phone.defects.length + ((grid.tablet.map Page.defects).getD []).length ∧
    ∀ page : Page, (∀ defect, defect ∈ page.defects ↔ page.Has defect) ∧
      page.defects.Pairwise fun a b => a.place < b.place := by
  refine ⟨?_, ?_, ?_, grid.nodup_field_defectIssues, ?_, ?_⟩
  · simp only [check_eq_error_iff, exists_and_left, exists_eq, and_true]
    exact grid.defectIssues_ne_nil_iff
  · exact fun fault failed => ((grid.check_eq_error_iff accented fault).1 failed).2
  · intro issue hi
    rw [← grid.filter_isError_issues []] at hi
    exact (List.mem_filter.1 hi).2
  · rw [defectIssues, List.length_append, List.length_map, List.length_map]
  · exact fun page => ⟨page.mem_defects_iff, page.pairwise_defects⟩

/-- Too many rows, and among them an empty one and one with an icon and an empty label; tablets have no rows at all. -/
theorem check_reports_defects_of_many :
    ∃ grid : Grid, grid.phone.rows = [Key.labels ["a"], [], [.icon "a" 97, .label "b", .label ""], Key.labels ["c"],
        Key.labels ["a"]] ∧ grid.tablet = some ⟨[]⟩ ∧ grid.phone.Has (.blankKey 2 2) ∧
      grid.check ["é"] = .error (.invalid grid.defectIssues none) ∧ (∀ issue ∈ grid.defectIssues, issue.isError = true) ∧
      grid.defectIssues.map Issue.field =
        ["phone_rows", "phone_rows[1]", "phone_rows[2][0]", "phone_rows[2][2]", "tablet_rows"] := by
  let grid : Grid := ⟨⟨[Key.labels ["a"], [], [.icon "a" 97, .label "b", .label ""], Key.labels ["c"],
    Key.labels ["a"]]⟩, some ⟨[]⟩, false⟩
  have blank : grid.phone.Has (.blankKey 2 2) := .blankKey rfl rfl (.inr rfl)
  obtain ⟨fails, reports, errors, -⟩ := grid.check_reports_defects ["é"]
  obtain ⟨fault, failed⟩ := fails.2 ⟨_, .inl rfl, _, blank⟩
  obtain rfl := reports fault failed
  exact ⟨grid, rfl, rfl, blank, failed, errors, by decide +kernel⟩

end Grid

end ScreenKeyboard
