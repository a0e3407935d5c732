import ScreenKeyboard.Proofs.Accents
import ScreenKeyboard.Proofs.UsableGrid
/-!
# The page of letters

A page of letters has four rows (`composedRows`): three rows of letters with the function keys around them, and the
space bar row.  The letters are the first three rows of the grid, where a row that the grid does not have counts as
empty; a fourth one makes way for the space bar (`letters_page_composed`).

The row edits are followed through `Page.rowOr`, so their order and the growth of the page play no part here.  That
there are no more than four rows is what the check of the grid is for.
-/
namespace ScreenKeyboard

namespace Page

theorem rows_eq_of_rowCount_four (page : Page) (h : page.rowCount = 4) :
    page.rows = [page.rowOr 1, page.rowOr 2, page.rowOr 3, page.rowOr 4] := by
  obtain ⟨rows⟩ := page
  match rows, h with
  | [_, _, _, _], _ => rfl

end Page

namespace Keyboard

/-! ## Composition -/

theorem eq_of_lt_spaceBarRow {n : RowNumber} (h : n.val < spaceBarRow.val) : n = 1 ∨ n = 2 ∨ n = 3 := by
  obtain ⟨val, pos⟩ := n
  have low : val < 4 := h
  have three : val = 1 ∨ val = 2 ∨ val = 3 := by omega
  rcases three with rfl | rfl | rfl
  · exact .inl rfl
  · exact .inr (.inl rfl)
  · exact .inr (.inr rfl)

/-- The rows of a page of letters: three rows of letters with the keys around them, and the space bar row. -/
def composedRows (c : Customizer) (g₁ g₂ g₃ : Row) : FormFactor → List Row
  | .phone =>
    [g₁,
      g₂,
      c.leftShift ++ g₃ ++ [.delete],
      [.toSymbols, (Key.label ",").offering [.settings], .spaceBar,
        (Key.label ".").offering (Key.phonePunctuation ++ c.extraPunctuation), .enterOfferingEmoji]]
  | .tablet =>
    [g₁ ++ [.delete],
      g₂ ++ [.enter],
      c.leftShift ++ g₃ ++ c.rightShift .tablet,
      [.toSymbols, .settings, .label "/", .spaceBar, .label ",",
        (Key.label ".").offering (Key.tabletPunctuation ++ c.extraPunctuation), .emoji]]

theorem rowCount_complete (c : Customizer) (form : FormFactor) (page : Page) :
    (complete c form page).rowCount = max page.rowCount spaceBarRow.val := by
  -- No edit is below the space bar row, and the last ones are in it.
  have shift : shiftRow.val = 3 := rfl
  have space : spaceBarRow.val = 4 := rfl
  have one : (1 : RowNumber).val = 1 := rfl
  have two : (2 : RowNumber).val = 2 := rfl
  cases form with
  | phone =>
    simp only [complete, addFunctionKeys, Page.rowCount_addRight, Page.rowCount_addLeft, Page.rowCount_setRow]
    omega
  | tablet =>
    simp only [complete, addFunctionKeys, Page.rowCount_addRight, Page.rowCount_addLeft, Page.rowCount_setRow]
    omega

/-- Completing letters makes four rows of them, when they have no more than a grid may have. -/
theorem rowCount_complete_of_le (c : Customizer) (form : FormFactor) {page : Page} (h : page.rowCount ≤ maxGridRows) :
    (complete c form page).rowCount = 4 := by
  rw [rowCount_complete]
  exact Nat.max_eq_right h

/-- **What completing some letters makes**, when they have no more rows than a grid may have. -/
theorem rows_complete (c : Customizer) (form : FormFactor) (page : Page) (h : page.rowCount ≤ maxGridRows) :
    (complete c form page).rows = composedRows c (page.rowOr 1) (page.rowOr 2) (page.rowOr 3) form := by
  rw [Page.rows_eq_of_rowCount_four _ (rowCount_complete_of_le c form h)]
  cases form with
  | phone =>
    simp +decide [complete, addFunctionKeys, shiftRow, spaceBarKeys, composedRows, Customizer.rightShift,
      Customizer.leftOfSpaceBar, Customizer.rightOfSpaceBar, Customizer.punctuation]
  | tablet =>
    simp +decide [complete, addFunctionKeys, shiftRow, spaceBarKeys, composedRows,
      Customizer.leftOfSpaceBar, Customizer.rightOfSpaceBar, Customizer.punctuation]

/-- The keys that stand around the letters on some page, but for the full stop. -/
def aroundLetters : List Key :=
  [.shift, .delete, .enter, .toSymbols, (Key.label ",").offering [.settings], .settings, .label "/", .spaceBar,
    .label ",", .enterOfferingEmoji, .emoji] ++ Key.exclamationAndQuestion

/-- What holds of the keys around the letters holds of a whole page if it holds of its letters and of the full stop. -/
theorem forall_mem_composedRows_iff {Q : Key → Prop} (around : ∀ key ∈ aroundLetters, Q key) (c : Customizer)
    (g₁ g₂ g₃ : Row) (form : FormFactor) : (∀ key ∈ (composedRows c g₁ g₂ g₃ form).flatten, Q key) ↔
      (∀ key ∈ g₁ ++ g₂ ++ g₃, Q key) ∧ Q ((Key.label ".").offering (c.punctuation form)) := by
  have left : ∀ key ∈ c.leftShift, Q key := by
    intro key hk
    unfold Customizer.leftShift at hk
    split at hk
    · exact around key (List.mem_singleton.1 hk ▸ by decide)
    · cases hk
  have right : ∀ key ∈ c.rightShift .tablet, Q key := by
    intro key hk
    rcases List.mem_append.1 hk with mark | shift
    · exact around key (List.mem_append_right _ mark)
    · exact left key shift
  -- Row by row, what is said of the keys around the letters is true and drops out.
  simp only [aroundLetters, List.forall_mem_append, List.forall_mem_cons] at around
  cases form with
  | phone =>
    simp only [composedRows, Customizer.punctuation, List.flatten_cons, List.flatten_nil, List.append_nil,
      List.forall_mem_append, List.forall_mem_cons, List.not_mem_nil, false_imp_iff, implies_true, iff_true_intro left,
      around, and_assoc, true_and, and_true]
  | tablet =>
    simp only [composedRows, Customizer.punctuation, List.flatten_cons, List.flatten_nil, List.append_nil,
      List.forall_mem_append, List.forall_mem_cons, List.not_mem_nil, false_imp_iff, implies_true, iff_true_intro left,
      iff_true_intro right, around, and_assoc, true_and, and_true]

variable {name : String} {c : Customizer} {grid : Grid} {first second : SymbolMaker} {k : Keyboard}

/-- The grid of a keyboard has no more rows than the page of letters, so none is left over. -/
theorem rowCount_letters_le (made : make name c grid first second = .ok k) (form : FormFactor) :
    (k.letters form).rowCount ≤ maxGridRows := by
  obtain ⟨usable, -, -, -, -, rfl⟩ := make_eq_ok_iff.1 made
  rw [letters_eq_mapKeys, Page.rowCount_mapKeys]
  exact (usable form).few_rows

theorem customizer_of_make (made : make name c grid first second = .ok k) : k.customizer = c := by
  obtain ⟨-, -, -, -, -, rfl⟩ := make_eq_ok_iff.1 made
  rfl

theorem grid_of_make (made : make name c grid first second = .ok k) : k.grid = grid := by
  obtain ⟨-, -, -, -, -, rfl⟩ := make_eq_ok_iff.1 made
  rfl

/-- The keyboard of a definition is for a locale, and it is made of what the definition says. -/
theorem make_of_ofDefinition {d : Definition} (made : ofDefinition d first second = .ok k) :
    ∃ locale, d.locale = some locale ∧
      make d.name (Customizer.ofPolicy locale d.policy) (Grid.ofDefinition d) first second = .ok k := by
  unfold ofDefinition at made
  split at made
  · cases made
  · rename_i locale located
    exact ⟨locale, located, made⟩

theorem rows_complete_letters (made : make name c grid first second = .ok k) (form : FormFactor) :
    (complete k.customizer form (k.letters form)).rows =
      composedRows c ((k.letters form).rowOr 1) ((k.letters form).rowOr 2) ((k.letters form).rowOr 3) form := by
  rw [rows_complete _ _ _ (rowCount_letters_le made form), customizer_of_make made]

/-- **Every keyboard has a page of letters, of exactly four rows**: the first three rows of its letters with the
function keys around them, and the space bar row.  No other row of the grid reaches the page, so two grids that agree
on three rows make the same page. -/
theorem letters_page_composed (made : make name c grid first second = .ok k) :
    (∀ form, ∃ page, k.page? form .letters = some page ∧ page.rowCount = 4 ∧ page.rows =
      composedRows c ((k.letters form).rowOr 1) ((k.letters form).rowOr 2) ((k.letters form).rowOr 3) form) ∧
    ∀ name' grid' first' second' k', make name' c grid' first' second' = .ok k' →
      ∀ form, (∀ n : RowNumber, n.val < spaceBarRow.val → (grid.page form).rowOr n = (grid'.page form).rowOr n) →
        k.page? form .letters = k'.page? form .letters := by
  constructor
  · intro form
    exact ⟨_, rfl, rowCount_complete_of_le _ form (rowCount_letters_le made form), rows_complete_letters made form⟩
  · intro name' grid' first' second' k' made' form agree
    have letters_agree : ∀ n : RowNumber, n.val < spaceBarRow.val →
        (k.letters form).rowOr n = (k'.letters form).rowOr n := by
      intro n hn
      rw [letters_eq_mapKeys, letters_eq_mapKeys, customizer_of_make made, customizer_of_make made', grid_of_make made,
        grid_of_make made', Page.rowOr_mapKeys, Page.rowOr_mapKeys, agree n hn]
    have rows := rows_complete_letters made form
    rw [letters_agree 1 (by decide), letters_agree 2 (by decide), letters_agree 3 (by decide),
      ← rows_complete_letters made' form] at rows
    exact congrArg (fun rows => some (Page.mk rows)) rows

/-- Of a grid with one row, the second row of the page is empty and the third one has function keys alone; of a grid
with four rows, the last one is not seen. -/
theorem letters_page_composed_of_odd_grids :
    ∃ c : Customizer, c.hasShift = true ∧ c.accents.entries = [("a", Key.labels ["á"])] ∧ ∃ k k' : Keyboard,
      make "one" c ⟨⟨[Key.labels ["a"]]⟩,
          some ⟨[Key.labels ["a"], Key.labels ["b"], Key.labels ["c"], Key.labels ["d"]]⟩, false⟩
        FirstSymbols.make SecondSymbols.make = .ok k ∧
      make "other" c ⟨⟨[Key.labels ["a"]]⟩, some ⟨[Key.labels ["a"], Key.labels ["b"], Key.labels ["c"]]⟩, true⟩
        FirstSymbols.make SecondSymbols.make = .ok k' ∧
      (∀ form, k.page? form .letters = k'.page? form .letters) ∧
      (∃ page, k.page? .phone .letters = some page ∧ page.rows = [
        [.labelOffering "a" ["á"]],
        [],
        [.shift, .delete],
        [.toSymbols, (Key.label ",").offering [.settings], .spaceBar, (Key.label ".").offering Key.phonePunctuation,
          .enterOfferingEmoji]]) ∧
      ∃ page, k.page? .tablet .letters = some page ∧ page.rows = [
        [.labelOffering "a" ["á"], .delete],
        [.label "b", .enter],
        [.shift, .label "c", .labelOffering "!" ["¡"], .labelOffering "?" ["¿"], .shift],
        [.toSymbols, .settings, .label "/", .spaceBar, .label ",", (Key.label ".").offering Key.tabletPunctuation,
          .emoji]] := by
  let c : Customizer := { Customizer.standard ⟨"en", none, by decide +kernel, by decide +kernel⟩ with
    accents := ⟨[("a", Key.labels ["á"])], List.pairwise_singleton _ _⟩ }
  let one : Grid := ⟨⟨[Key.labels ["a"]]⟩,
    some ⟨[Key.labels ["a"], Key.labels ["b"], Key.labels ["c"], Key.labels ["d"]]⟩, false⟩
  let other : Grid := ⟨⟨[Key.labels ["a"]]⟩, some ⟨[Key.labels ["a"], Key.labels ["b"], Key.labels ["c"]]⟩, true⟩
  have usable : ∀ form, (one.page form).Usable := fun form => by cases form <;> decide +kernel
  have usable' : ∀ form, (other.page form).Usable := fun form => by cases form <;> decide +kernel
  obtain ⟨k, made⟩ := exists_make "one" c usable
  obtain ⟨k', made'⟩ := exists_make "other" c usable'
  have rows : ∀ form (n : RowNumber), (k.letters form).rowOr n = _ := fun form n => by
    rw [letters_eq_mapKeys, customizer_of_make made, grid_of_make made, Page.rowOr_mapKeys]
  obtain ⟨composed, others⟩ := letters_page_composed made
  obtain ⟨phone, hp, -, hr⟩ := composed .phone
  obtain ⟨tablet, ht, -, htr⟩ := composed .tablet
  refine ⟨c, rfl, rfl, k, k', made, made', fun form => ?_, ⟨phone, hp, ?_⟩, tablet, ht, ?_⟩
  · refine others _ _ _ _ _ made' form fun n hn => ?_
    rcases eq_of_lt_spaceBarRow hn with rfl | rfl | rfl <;> cases form <;> rfl
  · rw [hr, rows, rows, rows]
    rfl
  · rw [htr, rows, rows, rows]
    rfl

end Keyboard

end ScreenKeyboard
