import ScreenKeyboard.Keyboard
/-!
# Usable grids

A check fails on errors alone, and errors come up exactly where a page cannot be used: without rows, with more rows
than a grid may have, with an empty row, or with a key that shows no letter (`check_ok_iff`).  A keyboard can be made
exactly when its grid is usable for every form factor and both of its makers of symbols succeed (`make_eq_ok_iff`).
-/
namespace ScreenKeyboard

/-! ## No errors -/

def Issue.NoError (issues : List Issue) : Prop := ∀ issue ∈ issues, issue.isError = false

instance (issues : List Issue) : Decidable (Issue.NoError issues) :=
  inferInstanceAs (Decidable (∀ issue ∈ issues, issue.isError = false))

namespace Issue

@[simp] theorem noError_nil : NoError [] := fun _ h => by cases h

@[simp] theorem noError_cons (issue : Issue) (issues : List Issue) :
    NoError (issue :: issues) ↔ issue.isError = false ∧ NoError issues := by
  simp [NoError]

@[simp] theorem noError_append (a b : List Issue) : NoError (a ++ b) ↔ NoError a ∧ NoError b := by
  simp only [NoError, List.mem_append]
  constructor
  · intro h
    exact ⟨fun issue hi => h issue (.inl hi), fun issue hi => h issue (.inr hi)⟩
  · rintro ⟨ha, hb⟩ issue (hi | hi)
    · exact ha issue hi
    · exact hb issue hi

@[simp] theorem isError_error (message field : String) (suggestion : Option String) :
    (Issue.error message field suggestion).isError = true := rfl

@[simp] theorem isError_warning (message field : String) (suggestion : Option String) :
    (Issue.warning message field suggestion).isError = false := rfl

theorem settle_ok_iff (issues : List Issue) : (∃ warnings, settle issues = .ok warnings) ↔ NoError issues := by
  constructor
  · rintro ⟨warnings, h⟩
    exact ((settle_eq_ok_iff issues warnings).1 h).1
  · intro h
    exact ⟨sort issues, (settle_eq_ok_iff issues _).2 ⟨h, rfl⟩⟩

end Issue

/-! ## Pages -/

/-- **A page that the letters of a keyboard can be taken from**: it has rows but not too many, each row has keys, and
each key shows a letter. -/
structure Page.Usable (page : Page) : Prop where
  has_rows : page.rows ≠ []
  few_rows : page.rowCount ≤ maxGridRows
  has_keys : ∀ row ∈ page.rows, row ≠ []
  lettered : ∀ row ∈ page.rows, ∀ key ∈ row, (Grid.letter? key).isSome = true

instance (page : Page) : Decidable page.Usable :=
  decidable_of_iff (page.rows ≠ [] ∧ page.rowCount ≤ maxGridRows ∧ (∀ row ∈ page.rows, row ≠ []) ∧
      ∀ row ∈ page.rows, ∀ key ∈ row, (Grid.letter? key).isSome = true)
    ⟨fun ⟨h₁, h₂, h₃, h₄⟩ => ⟨h₁, h₂, h₃, h₄⟩, fun ⟨h₁, h₂, h₃, h₄⟩ => ⟨h₁, h₂, h₃, h₄⟩⟩

namespace Grid

theorem letter?_eq_some_iff (key : Key) (letter : String) :
    letter? key = some letter ↔ key.visual = .label letter ∧ letter ≠ "" := by
  unfold letter? Key.label?
  cases key.visual with
  | icon name => simp [Visual.label?]
  | label text =>
    by_cases h : text = ""
    · subst h
      simp only [Visual.label?, Visual.label.injEq]
      constructor
      · intro h; cases h
      · rintro ⟨rfl, h⟩; exact absurd rfl h
    · simp only [Visual.label?, Visual.label.injEq]
      split
      · rename_i heq; exact absurd (Option.some.inj heq) h
      · rw [Option.some.injEq]
        exact ⟨fun e => ⟨e, e ▸ h⟩, fun e => e.1⟩

theorem noError_keyIssues (path : String) : ∀ (keys : List Key) (seen : List String) (index : Nat),
    Issue.NoError (keyIssues path seen index keys) ↔ ∀ key ∈ keys, (letter? key).isSome = true
  | [], seen, index => by simp [keyIssues]
  | key :: keys, seen, index => by
    rw [List.forall_mem_cons, keyIssues]
    cases letter? key with
    | none => simp
    | some letter =>
      -- A letter that comes up again is worth a warning only, so what was seen plays no part.
      have again : Issue.NoError (if seen.contains letter then
          [.warning ("Duplicate letter '" ++ letter ++ "'") (itemPath path index) none] else []) := by
        split <;> simp
      simp only [Issue.noError_append, again, true_and, noError_keyIssues path keys, Option.isSome_some]

theorem noError_rowIssues (field : String) : ∀ (rows : List Row) (seen : List String) (index : Nat),
    Issue.NoError (rowIssues field seen index rows) ↔
      ∀ row ∈ rows, row ≠ [] ∧ ∀ key ∈ row, (letter? key).isSome = true
  | [], seen, index => by simp [rowIssues]
  | row :: rows, seen, index => by
    rw [List.forall_mem_cons, rowIssues, Issue.noError_append, noError_rowIssues field rows]
    by_cases h : row = []
    · simp [h]
    · rw [if_neg h, noError_keyIssues]
      simp [h]

theorem noError_countIssues (field : String) (count : Nat) :
    Issue.NoError (countIssues field count) ↔ count ≤ maxGridRows := by
  unfold countIssues
  by_cases h : count > maxGridRows
  · rw [if_pos h]
    simpa using h
  · rw [if_neg h]
    refine ⟨fun _ => Nat.le_of_not_lt h, fun _ => ?_⟩
    split
    · simp
    · split <;> simp

/-- **The check of a page finds no error exactly in usable pages.** -/
theorem noError_pageIssues (field : String) (page : Page) :
    Issue.NoError (pageIssues field page) ↔ page.Usable := by
  unfold pageIssues
  by_cases h : page.rows = []
  · rw [if_pos h]
    refine ⟨fun e => ?_, fun usable => absurd h usable.has_rows⟩
    simp at e
  · rw [if_neg h, Issue.noError_append, noError_countIssues, noError_rowIssues]
    constructor
    · rintro ⟨hc, hr⟩
      exact ⟨h, hc, fun row hrow => (hr row hrow).1, fun row hrow => (hr row hrow).2⟩
    · intro usable
      exact ⟨usable.few_rows, fun row hrow => ⟨usable.has_keys row hrow, usable.lettered row hrow⟩⟩

theorem noError_accentIssues (grid : Grid) (letter : String) : Issue.NoError (grid.accentIssues letter) := by
  unfold accentIssues
  split <;> simp

theorem noError_issues (grid : Grid) (accented : List String) :
    Issue.NoError (grid.issues accented) ↔ ∀ form, (grid.page form).Usable := by
  have accents : Issue.NoError (accented.flatMap grid.accentIssues) := by
    intro issue hi
    obtain ⟨letter, -, hi⟩ := List.mem_flatMap.1 hi
    exact noError_accentIssues grid letter issue hi
  have forms : (∀ form, (grid.page form).Usable) ↔ (grid.page .phone).Usable ∧ (grid.page .tablet).Usable :=
    ⟨fun h => ⟨h .phone, h .tablet⟩, fun h form => match form with
      | .phone => h.1
      | .tablet => h.2⟩
  rw [issues, Issue.noError_append, Issue.noError_append, noError_pageIssues, forms]
  simp only [accents, and_true, page]
  cases grid.tablet with
  | none => simp
  | some tablet => simp [noError_pageIssues]

/-- **A grid passes its check exactly when it is usable for every form factor.** -/
theorem check_ok_iff (grid : Grid) (accented : List String) :
    (∃ warnings, grid.check accented = .ok warnings) ↔ ∀ form, (grid.page form).Usable := by
  rw [check, Issue.settle_ok_iff, noError_issues]

end Grid

/-! ## Symbols -/

namespace Page

theorem hasLabel_iff_exists (page : Page) (label : String) :
    page.hasLabel label = true ↔ ∃ key ∈ page.keys, key.visual = .label label := by
  simp [hasLabel]

/-- **A placeholder that is there can be filled**, and the other labels stay. -/
theorem exists_fill {page : Page} {placeholder : String} (keys : Row) (h : page.hasLabel placeholder = true) :
    ∃ filled, page.fill placeholder keys = .ok filled ∧
      ∀ label, label ≠ placeholder → page.hasLabel label = true → filled.hasLabel label = true := by
  unfold fill replaceLabel?
  rw [if_pos h]
  refine ⟨_, rfl, fun label hne hl => ?_⟩
  obtain ⟨key, hk, hv⟩ := (hasLabel_iff_exists page label).1 hl
  obtain ⟨row, hrow, hkey⟩ := List.mem_flatten.1 hk
  have other : ¬ key.hasLabel placeholder = true := by
    rw [Key.hasLabel_iff, hv, Visual.label.injEq]
    exact hne
  refine (hasLabel_iff_exists _ label).2 ⟨key, List.mem_flatten.2 ⟨_, List.mem_map_of_mem hrow, ?_⟩, hv⟩
  exact List.mem_flatMap.2 ⟨key, hkey, by rw [if_neg other]; exact List.mem_singleton_self key⟩

end Page

theorem FirstSymbols.exists_make (c : Customizer) : ∃ pages, FirstSymbols.make c = .ok pages := by
  have currency : common.hasLabel currencyLabel = true := by decide +kernel
  have doubleQuote : common.hasLabel doubleQuoteLabel = true := by decide +kernel
  have singleQuote : common.hasLabel singleQuoteLabel = true := by decide +kernel
  obtain ⟨page₁, h₁, keep₁⟩ := Page.exists_fill [c.currency.key] currency
  obtain ⟨page₂, h₂, keep₂⟩ := Page.exists_fill [(Key.label "\"").offering c.doubleQuoteOffers]
    (keep₁ _ (by decide +kernel) doubleQuote)
  obtain ⟨page₃, h₃, -⟩ := Page.exists_fill [(Key.label "'").offering c.singleQuoteOffers]
    (keep₂ _ (by decide +kernel) (keep₁ _ (by decide +kernel) singleQuote))
  have filled_eq : filled c = .ok page₃ := by
    simp only [filled, h₁, h₂, h₃, bind, Except.bind]
  unfold FirstSymbols.make
  rw [filled_eq]
  exact ⟨_, rfl⟩

theorem SecondSymbols.exists_make (c : Customizer) : ∃ pages, SecondSymbols.make c = .ok pages := by
  have otherCurrencies : common.hasLabel otherCurrenciesLabel = true := by decide +kernel
  obtain ⟨page, h, -⟩ := Page.exists_fill c.currency.otherKeys otherCurrencies
  unfold SecondSymbols.make filled
  rw [h]
  exact ⟨_, rfl⟩

/-! ## Keyboards -/

namespace Keyboard

variable {name : String} {c : Customizer} {grid : Grid} {first second : SymbolMaker} {k : Keyboard}

/-- **What it takes to make a keyboard**: a grid that is usable for every form factor, and two pages of symbols. -/
theorem make_eq_ok_iff : make name c grid first second = .ok k ↔
    (∀ form, (grid.page form).Usable) ∧
      ∃ symbols shifted, first c = .ok symbols ∧ second c = .ok shifted ∧ k = ⟨name, c, grid, symbols, shifted⟩ := by
  rw [← Grid.check_ok_iff grid c.accentedLetters]
  unfold make
  cases grid.check c.accentedLetters with
  | error fault => simp
  | ok warnings =>
    cases first c with
    | error fault => simp [bind, Except.bind]
    | ok symbols =>
      cases second c with
      | error fault => simp [bind, Except.bind]
      | ok shifted => simp [bind, Except.bind, pure, Except.pure, eq_comm]

/-- **The standard makers of symbols never fail**, so only a grid can keep a keyboard from being made. -/
theorem exists_make (name : String) (c : Customizer) (usable : ∀ form, (grid.page form).Usable) :
    ∃ k, make name c grid FirstSymbols.make SecondSymbols.make = .ok k := by
  obtain ⟨symbols, hs⟩ := FirstSymbols.exists_make c
  obtain ⟨shifted, hs'⟩ := SecondSymbols.exists_make c
  exact ⟨_, make_eq_ok_iff.2 ⟨usable, symbols, shifted, hs, hs', rfl⟩⟩

end Keyboard

end ScreenKeyboard
