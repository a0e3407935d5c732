import ScreenKeyboard.Key.Casing
/-!
# Pages

A page is a keyboard as it stands on the screen: rows of keys, of any lengths.  Rows are counted
from one, as people do ("row four has the space bar"), so a row number is a positive number by its
type.  `Page.rowOr` is the view that the row edits are described by: a row that a page does not have
counts as empty.
-/
namespace ScreenKeyboard

abbrev Row := List Key

/-- The number of a row, counted from one. -/
structure RowNumber where
  val : Nat
  pos : 0 < val
deriving DecidableEq

namespace RowNumber

instance (n : Nat) : OfNat RowNumber (n + 1) := ⟨⟨n + 1, n.succ_pos⟩⟩

def ofNat? (n : Nat) : Option RowNumber := if h : 0 < n then some ⟨n, h⟩ else none

def requirement : String := "row numbers start at 1"

def index (n : RowNumber) : Nat := n.val - 1

theorem index_inj {a b : RowNumber} : a.index = b.index ↔ a = b := by
  cases a with | mk a ha => cases b with | mk b hb =>
    simp only [index, RowNumber.mk.injEq]
    omega

end RowNumber

structure Page where
  rows : List Row
deriving DecidableEq

namespace Page

/-! ## Reading a page -/

/-- All keys, row by row, without those that are only offered. -/
def keys (page : Page) : List Key := page.rows.flatten

def row? (page : Page) (n : RowNumber) : Option Row := page.rows[n.index]?

/-- The row of a number; a missing row counts as empty. -/
def rowOr (page : Page) (n : RowNumber) : Row := page.rows.getD n.index []

def rowCount (page : Page) : Nat := page.rows.length

def shape (page : Page) : List Nat := page.rows.map List.length

def keyCount (page : Page) : Nat := page.keys.length

def countOf (page : Page) (key : Key) : Nat := page.keys.count key

def has (page : Page) (key : Key) : Bool := 0 < page.countOf key

def hasLabel (page : Page) (label : String) : Bool := page.keys.any (·.hasLabel label)

theorem has_iff (page : Page) (key : Key) : page.has key = true ↔ key ∈ page.keys := by
  simp [has, countOf, List.count_pos_iff]

/-! ## Writing a page -/

def rowText (number : Nat) (row : Row) : String :=
  toString number ++ ": [" ++ String.intercalate " " (row.map Key.text) ++ "]"

def text (page : Page) : String :=
  String.intercalate "\n" (page.rows.mapIdx fun i row => rowText (i + 1) row)

def toJson (page : Page) : Json := .list (page.rows.map fun row => .list (row.map Key.toJson))

end Page

end ScreenKeyboard
