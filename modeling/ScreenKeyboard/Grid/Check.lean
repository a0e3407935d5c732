import ScreenKeyboard.Fault
import ScreenKeyboard.Grid
/-!
# Checking grids

A grid is usable when each of its pages has one to four rows, none of them empty, and every key has
a label with something in it.  Everything else that looks wrong is a warning: few rows, a fourth row
(it makes way for the space bar), a letter that comes up again, and accents for a letter that is not
there.

A check goes through all of a page whatever it finds, so its issues are everything that is wrong.
They are found phone rows before tablet rows, and each page row by row.  `settle` turns them into
an outcome: the errors if there are any, else the warnings in order.
-/
namespace ScreenKeyboard

def spaceBarRow : RowNumber := 4

def shiftRow : RowNumber := 3

def maxGridRows : Nat := spaceBarRow.val

def usualLetterRows : Nat := 3

namespace Grid

def itemPath (field : String) (index : Nat) : String := field ++ "[" ++ toString index ++ "]"

def countIssues (field : String) (count : Nat) : List Issue :=
  if count > maxGridRows then
    [.error ("Grid has " ++ toString count ++ " rows, at most " ++ toString maxGridRows
      ++ " are allowed") field (some "Remove the extra rows")]
  else if count = spaceBarRow.val then
    [.warning ("Row " ++ toString spaceBarRow.val ++ " is replaced by the spacebar row")
      (itemPath field spaceBarRow.index) (some "Move these keys to a letter row")]
  else if count < usualLetterRows then
    [.warning ("Grid has " ++ toString count ++ " letter rows, " ++ toString usualLetterRows
      ++ " are usual") field none]
  else []

/-- The label of a key, if it has one with something in it. -/
def letter? (key : Key) : Option String :=
  match key.label? with
  | some "" => none
  | label => label

/-- What is wrong with the keys of a row from a place on; `seen` are the letters before them. -/
def keyIssues (path : String) (seen : List String) (index : Nat) : List Key → List Issue
  | [] => []
  | key :: keys =>
    match letter? key with
    | none =>
      .error "Key label is empty" (itemPath path index)
          (some "Provide the letter drawn on the key")
        :: keyIssues path seen (index + 1) keys
    | some letter =>
      (if seen.contains letter then
          [.warning ("Duplicate letter '" ++ letter ++ "'") (itemPath path index) none]
        else [])
        ++ keyIssues path (letter :: seen) (index + 1) keys

def rowIssues (field : String) (seen : List String) (index : Nat) : List Row → List Issue
  | [] => []
  | row :: rows =>
    (if row = [] then
        [.error "Row is empty" (itemPath field index) (some "Remove the row or add keys to it")]
      else keyIssues (itemPath field index) seen 0 row)
      ++ rowIssues field (row.filterMap letter? ++ seen) (index + 1) rows

def pageIssues (field : String) (page : Page) : List Issue :=
  if page.rows = [] then
    [.error "Grid has no rows" field (some "Add at least one row of letters")]
  else countIssues field page.rowCount ++ rowIssues field [] 0 page.rows

def accentIssues (grid : Grid) (letter : String) : List Issue :=
  if FormFactor.all.all fun form => (grid.page form).hasLabel letter then []
  else
    [.warning ("Accents are defined for '" ++ letter ++ "', which is not on the keyboard")
      ("customizer.accented_letters." ++ letter)
      (some "Remove the entry or add the letter to the grid")]

def issues (grid : Grid) (accented : List String) : List Issue :=
  pageIssues "phone_rows" grid.phone
    ++ (match grid.tablet with
      | none => []
      | some page => pageIssues "tablet_rows" page)
    ++ accented.flatMap grid.accentIssues

end Grid

namespace Issue

/-- The outcome of a check: the errors if there are any, else the warnings in order. -/
def settle (issues : List Issue) : Except Fault (List Issue) :=
  match issues.filter isError with
  | [] => .ok (sort (issues.filter fun issue => !issue.isError))
  | errors => .error (.invalid errors none)

theorem settle_eq_ok_iff (issues warnings : List Issue) :
    settle issues = .ok warnings ↔
      (∀ issue ∈ issues, issue.isError = false) ∧ warnings = sort issues := by
  unfold settle
  split
  · next h =>
    have none_error : ∀ issue ∈ issues, issue.isError = false := by
      simpa [List.filter_eq_nil_iff] using h
    have all : (issues.filter fun issue => !issue.isError) = issues :=
      List.filter_eq_self.2 fun issue hi => by simp [none_error issue hi]
    rw [all, Except.ok.injEq]
    exact ⟨fun e => ⟨none_error, e.symm⟩, fun e => e.2.symm⟩
  · next h =>
    constructor
    · simp
    · rintro ⟨none_error, -⟩
      exact absurd (List.filter_eq_nil_iff.2 fun issue hi => by simp [none_error issue hi]) h

end Issue

def Grid.check (grid : Grid) (accented : List String) : Except Fault (List Issue) :=
  Issue.settle (grid.issues accented)

end ScreenKeyboard
