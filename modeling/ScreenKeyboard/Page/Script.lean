import ScreenKeyboard.Page.Edit
/-!
# Edits as values

An edit that is to be made later is a value: of a row, of the keys where they stand, or of a
placeholder.  An edit of the keys where they stand always succeeds, so a list of them runs to the
end (`Page.editKeys`).  An edit of a placeholder fails where there is none.

An edit of a row comes with a number, which need not be that of a row: it may be zero, or so large
that the page cannot grow to it (`Page.reach`).
-/
namespace ScreenKeyboard

/-! ## One row -/

inductive RowChange where
  | set (keys : Row)
  | addLeft (keys : Row)
  | addRight (keys : Row)
deriving DecidableEq

structure NumberedChange where
  number : Nat
  change : RowChange
deriving DecidableEq

inductive RowFault where
  | zero
  | noRoom
deriving DecidableEq

def RowFault.text : RowFault → String
  | .zero => RowNumber.requirement
  | .noRoom => "capacity overflow"

namespace Page

def changeRow (page : Page) (n : RowNumber) : RowChange → Page
  | .set keys => page.setRow n keys
  | .addLeft keys => page.addLeft n keys
  | .addRight keys => page.addRight n keys

/-- How many rows a page can grow to: each one takes 24 bytes, and together they take less than
2 ^ 63. -/
def maxRows : Nat := 0x7FFFFFFFFFFFFFFF / 24

/-- The row of a number, which the page may have to grow for. -/
def reach (page : Page) (number : Nat) : Except RowFault RowNumber :=
  match RowNumber.ofNat? number with
  | none => .error .zero
  | some n => if page.rowCount < number ∧ maxRows < number then .error .noRoom else .ok n

def makeChange (page : Page) (c : NumberedChange) : Except RowFault Page :=
  (page.changeRow · c.change) <$> page.reach c.number

def makeChanges (page : Page) (changes : List NumberedChange) : Except RowFault Page :=
  changes.foldlM makeChange page

end Page

/-! ## Keys where they stand -/

/-- What can be done to the keys of a page without moving them. -/
inductive KeyEdit where
  | replaceAll (key replacement : Key)
  | offerOn (label : String) (more : List Key)
  | offerEach (offers : List (String × List Key))
  | upper (l : Locale)
deriving DecidableEq

namespace Page

def editKey (page : Page) : KeyEdit → Page
  | .replaceAll key replacement => page.replaceAll key replacement
  | .offerOn label more => page.offerOn label more
  | .offerEach offers => page.offerEach offers
  | .upper l => page.upper l

def editKeys (page : Page) (edits : List KeyEdit) : Page := edits.foldl editKey page

end Page

/-! ## Any edit -/

inductive Edit where
  | row (change : NumberedChange)
  | keys (edit : KeyEdit)
  | fill (placeholder : String) (keys : Row)
deriving DecidableEq

inductive Edit.Refusal where
  | row (fault : RowFault)
  | placeholder (fault : Fault)

namespace Page

def edit (page : Page) : Edit → Except Edit.Refusal Page
  | .row change => (page.makeChange change).mapError .row
  | .keys edit => .ok (page.editKey edit)
  | .fill placeholder keys => (page.fill placeholder keys).mapError .placeholder

end Page

end ScreenKeyboard
