import ScreenKeyboard.Fault
import ScreenKeyboard.Page
/-!
# Edits of a page

A few edits make every page of a keyboard out of its letters.  Three of them address a row and
change nothing else, except that a page grows by empty rows until it has the row
(`rowOr_modifyRow`).  One puts keys in the place of a placeholder and fails when there is none.  The
others act on keys where they stand, so the rows keep their lengths (`shape_mapKeys`).
-/
namespace ScreenKeyboard

/-- Changes the item at a place, with as many empty items before it as it takes. -/
def modifyGrowing {α : Type} (f : List α → List α) : Nat → List (List α) → List (List α)
  | 0,     []      => [f []]
  | 0,     r :: rs => f r :: rs
  | n + 1, []      => [] :: modifyGrowing f n []
  | n + 1, r :: rs => r :: modifyGrowing f n rs

theorem getD_modifyGrowing {α : Type} (f : List α → List α) (n i : Nat) (rows : List (List α)) :
    (modifyGrowing f n rows).getD i [] =
      if i = n then f (rows.getD n []) else rows.getD i [] := by
  induction n generalizing i rows with
  | zero => cases rows <;> cases i <;> simp [modifyGrowing]
  | succ n ih => cases rows <;> cases i <;> simp [modifyGrowing] at ih ⊢ <;> simp [ih]

theorem length_modifyGrowing {α : Type} (f : List α → List α) (n : Nat) (rows : List (List α)) :
    (modifyGrowing f n rows).length = max rows.length (n + 1) := by
  induction n generalizing rows with
  | zero =>
    cases rows with
    | nil => rfl
    | cons r rs => simp [modifyGrowing]
  | succ n ih =>
    cases rows with
    | nil => simp [modifyGrowing, ih]
    | cons r rs => simp [modifyGrowing, ih]

namespace Page

/-! ## One row -/

/-- Changes one row; a page that does not have it grows by empty rows first. -/
def modifyRow (page : Page) (n : RowNumber) (f : Row → Row) : Page :=
  ⟨modifyGrowing f n.index page.rows⟩

def setRow (page : Page) (n : RowNumber) (keys : Row) : Page := page.modifyRow n fun _ => keys

def addLeft (page : Page) (n : RowNumber) (keys : Row) : Page := page.modifyRow n (keys ++ ·)

def addRight (page : Page) (n : RowNumber) (keys : Row) : Page := page.modifyRow n (· ++ keys)

theorem rowOr_modifyRow (page : Page) (n i : RowNumber) (f : Row → Row) :
    (page.modifyRow n f).rowOr i = if i = n then f (page.rowOr n) else page.rowOr i := by
  unfold modifyRow rowOr
  rw [getD_modifyGrowing]
  simp [RowNumber.index_inj]

theorem rowCount_modifyRow (page : Page) (n : RowNumber) (f : Row → Row) :
    (page.modifyRow n f).rowCount = max page.rowCount n.val := by
  have := n.pos
  unfold modifyRow rowCount
  rw [length_modifyGrowing, RowNumber.index]
  omega

@[simp] theorem rowOr_setRow (page : Page) (n i : RowNumber) (keys : Row) :
    (page.setRow n keys).rowOr i = if i = n then keys else page.rowOr i :=
  rowOr_modifyRow page n i _

@[simp] theorem rowOr_addLeft (page : Page) (n i : RowNumber) (keys : Row) :
    (page.addLeft n keys).rowOr i = if i = n then keys ++ page.rowOr n else page.rowOr i :=
  rowOr_modifyRow page n i _

@[simp] theorem rowOr_addRight (page : Page) (n i : RowNumber) (keys : Row) :
    (page.addRight n keys).rowOr i = if i = n then page.rowOr n ++ keys else page.rowOr i :=
  rowOr_modifyRow page n i _

@[simp] theorem rowCount_setRow (page : Page) (n : RowNumber) (keys : Row) :
    (page.setRow n keys).rowCount = max page.rowCount n.val := rowCount_modifyRow page n _

@[simp] theorem rowCount_addLeft (page : Page) (n : RowNumber) (keys : Row) :
    (page.addLeft n keys).rowCount = max page.rowCount n.val := rowCount_modifyRow page n _

@[simp] theorem rowCount_addRight (page : Page) (n : RowNumber) (keys : Row) :
    (page.addRight n keys).rowCount = max page.rowCount n.val := rowCount_modifyRow page n _

/-! ## Keys where they stand -/

def mapKeys (page : Page) (f : Key → Key) : Page := ⟨page.rows.map (List.map f)⟩

def replaceAll (page : Page) (key replacement : Key) : Page :=
  page.mapKeys fun k => if k = key then replacement else k

def offerOn (page : Page) (label : String) (more : List Key) : Page :=
  page.mapKeys fun k => if k.hasLabel label then k.offering more else k

def offerEach (page : Page) (offers : List (String × List Key)) : Page :=
  offers.foldl (fun p offer => p.offerOn offer.1 offer.2) page

def upper (page : Page) (l : Locale) : Page := page.mapKeys (Key.upper l)

@[simp] theorem shape_mapKeys (page : Page) (f : Key → Key) :
    (page.mapKeys f).shape = page.shape := by
  simp [mapKeys, shape, Function.comp_def]

@[simp] theorem keys_mapKeys (page : Page) (f : Key → Key) :
    (page.mapKeys f).keys = page.keys.map f := by
  simp [mapKeys, keys, List.map_flatten]

theorem mapKeys_mapKeys (page : Page) (f g : Key → Key) :
    (page.mapKeys f).mapKeys g = page.mapKeys (g ∘ f) := by
  simp [mapKeys, Function.comp_def]

/-! ## Placeholders -/

/-- Puts keys in the place of every key that has a label; none where no key has it.  Keys that are
put in are not looked at again. -/
def replaceLabel? (page : Page) (label : String) (keys : Row) : Option Page :=
  if page.hasLabel label then
    some ⟨page.rows.map fun row => row.flatMap fun k => if k.hasLabel label then keys else [k]⟩
  else none

def fill (page : Page) (placeholder : String) (keys : Row) : Except Fault Page :=
  match page.replaceLabel? placeholder keys with
  | some filled => .ok filled
  | none => .error (.missingKey placeholder)

theorem replaceLabel?_eq_none_iff (page : Page) (label : String) (keys : Row) :
    page.replaceLabel? label keys = none ↔ ∀ k ∈ page.keys, k.visual ≠ .label label := by
  simp [replaceLabel?, hasLabel]

end Page

end ScreenKeyboard
