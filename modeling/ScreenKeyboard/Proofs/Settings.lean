import ScreenKeyboard.Proofs.DottedCapital
import ScreenKeyboard.Proofs.ShiftedPage
/-!
# What a page hangs on

A keyboard has a name, a locale, a grid and many choices, but each of its pages hangs on a few of them.  The page of
letters knows nothing of the locale, and shifted pages know only whether it is Turkic, which shows at keys with the
small letter i and nowhere else.  The pages of symbols know nothing of the grid: one hangs on the currency and the
orders of the quotes, the other on the currency alone (`pages_hang_on_settings`).
-/
namespace ScreenKeyboard

namespace Customizer

/-- Customizers that make the choices about letters alike. -/
structure SameLetters (c c' : Customizer) : Prop where
  accents : c.accents = c'.accents
  extraPunctuation : c.extraPunctuation = c'.extraPunctuation
  hasShift : c.hasShift = c'.hasShift

/-- Customizers that have the quotes in the same orders. -/
structure SameQuotes (c c' : Customizer) : Prop where
  doubleQuotes : c.doubleQuotes = c'.doubleQuotes
  singleQuotes : c.singleQuotes = c'.singleQuotes
  doubleAngles : c.doubleAngles = c'.doubleAngles
  singleAngles : c.singleAngles = c'.singleAngles

end Customizer

/-! ## Symbols -/

theorem FirstSymbols.make_congr {c c' : Customizer} (currency : c.currency = c'.currency) (quotes : c.SameQuotes c') :
    make c = make c' := by
  have double : c.doubleQuoteOffers = c'.doubleQuoteOffers := by
    rw [Customizer.doubleQuoteOffers, Customizer.doubleQuoteOffers, quotes.doubleQuotes, quotes.doubleAngles]
  have single : c.singleQuoteOffers = c'.singleQuoteOffers := by
    rw [Customizer.singleQuoteOffers, Customizer.singleQuoteOffers, quotes.singleQuotes, quotes.singleAngles]
  have same : filled c = filled c' := by
    unfold filled
    rw [currency, double, single]
  unfold make
  rw [same]

theorem SecondSymbols.make_congr {c c' : Customizer} (currency : c.currency = c'.currency) : make c = make c' := by
  have same : filled c = filled c' := by
    unfold filled
    rw [currency]
  unfold make
  rw [same]

/-! ## Shifted keys -/

namespace Key

theorem not_hasSmallI_shift : ¬ shift.HasSmallI := by
  have capsLock : ¬ capsLock.HasSmallI := by
    rw [capsLock, coded, hasSmallI_mk_iff]
    simp [Visual.HasSmallI, Output.HasSmallI, Code.capsLock, Code.ofChar]
  rw [shift, icon, offering, hasSmallI_mk_iff]
  simp [Visual.HasSmallI, Output.HasSmallI, Code.shift, Code.ofChar, capsLock]

variable {l l' : Locale}

/-- Shift keys do not have the letter, and in the space bar row there is no upper case. -/
theorem shiftedIn_ne_iff (differ : ¬ (l.Turkic ↔ l'.Turkic)) (n : RowNumber) (key : Key) :
    shiftedIn l n key ≠ shiftedIn l' n key ↔ n ≠ spaceBarRow ∧ key.HasSmallI := by
  unfold shiftedIn
  by_cases hs : key = .shift
  · subst hs
    simp [not_hasSmallI_shift]
  · rw [if_neg hs, if_neg hs]
    by_cases hn : n = spaceBarRow
    · simp [hn]
    · rw [if_neg hn, if_neg hn, Ne, upper_eq_upper_iff differ, Classical.not_not]
      exact ⟨fun h => ⟨hn, h⟩, fun h => h.2⟩

end Key

/-- **Pages that differ in one letter alone**: they have the same shape, and their keys differ exactly above the space
bar row where the page of letters has a key with the small letter i. -/
structure DifferAtSmallI (letters shifted shifted' : Page) : Prop where
  shape : shifted.shape = shifted'.shape
  places : ∀ (n : RowNumber) (i : Nat), (shifted.rowOr n)[i]? ≠ (shifted'.rowOr n)[i]? ↔
    n ≠ spaceBarRow ∧ ∃ key, (letters.rowOr n)[i]? = some key ∧ key.HasSmallI

namespace Keyboard

variable {name name' : String} {c c' : Customizer} {grid grid' : Grid} {first second first' second' : SymbolMaker}
  {k k' : Keyboard}

/-! ## Letters -/

theorem complete_congr (same : c.SameLetters c') (form : FormFactor) (page : Page) :
    complete c form page = complete c' form page := by
  have left : c.leftShift = c'.leftShift := by
    rw [Customizer.leftShift, Customizer.leftShift, same.hasShift]
  have right : c.rightShift form = c'.rightShift form := by
    unfold Customizer.rightShift
    rw [same.hasShift]
  have space : spaceBarKeys c form = spaceBarKeys c' form := by
    unfold spaceBarKeys Customizer.rightOfSpaceBar Customizer.punctuation
    rw [same.extraPunctuation]
  rw [complete, complete, left, right, space]

/-- Keyboards of one grid have the same letters when these have the same accents. -/
theorem letters_congr (made : make name c grid first second = .ok k)
    (made' : make name' c' grid first' second' = .ok k')
    (accents : c.accents = c'.accents) (form : FormFactor) : k.letters form = k'.letters form := by
  rw [letters_eq_mapKeys, letters_eq_mapKeys, customizer_of_make made, customizer_of_make made', grid_of_make made,
    grid_of_make made', accents]

theorem complete_letters_congr (made : make name c grid first second = .ok k)
    (made' : make name' c' grid first' second' = .ok k') (same : c.SameLetters c') (form : FormFactor) :
    complete c form (k.letters form) = complete c' form (k'.letters form) := by
  rw [complete_congr same, letters_congr made made' same.accents form]

theorem letters_page_congr (made : make name c grid first second = .ok k)
    (made' : make name' c' grid first' second' = .ok k') (same : c.SameLetters c') (form : FormFactor) :
    k.page? form .letters = k'.page? form .letters := by
  have pages := complete_letters_congr made made' same form
  rw [← customizer_of_make made, ← customizer_of_make made'] at pages
  exact congrArg some pages

/-! ## Shifted letters -/

theorem shifted_page_congr (made : make name c grid first second = .ok k)
    (made' : make name' c' grid first' second' = .ok k') (same : c.SameLetters c')
    (locales : c.locale.Turkic ↔ c'.locale.Turkic) (form : FormFactor) (state state' : ShiftState) :
    k.page? form (.shifted state) = k'.page? form (.shifted state') := by
  have upper : (k.letters form).upper c.locale = (k'.letters form).upper c'.locale := by
    rw [letters_congr made made' same.accents form, Page.upper, Page.upper, funext (Key.upper_congr locales)]
  ext page
  rw [page?_shifted_eq_some_iff, page?_shifted_eq_some_iff, customizer_of_make made, customizer_of_make made',
    grid_of_make made, grid_of_make made', upper, complete_congr same]

theorem differAtSmallI_of_shifted (made : make name c grid first second = .ok k)
    (made' : make name' c' grid first' second' = .ok k') (same : c.SameLetters c')
    (locales : ¬ (c.locale.Turkic ↔ c'.locale.Turkic)) {form : FormFactor} {state state' : ShiftState}
    {letters shifted shifted' : Page} (plain : k.page? form .letters = some letters)
    (there : k.page? form (.shifted state) = some shifted) (there' : k'.page? form (.shifted state') = some shifted') :
    DifferAtSmallI letters shifted shifted' := by
  obtain rfl : complete k.customizer form (k.letters form) = letters := Option.some.inj plain
  obtain ⟨-, rfl⟩ := (page?_shifted_eq_some_iff k form state shifted).1 there
  obtain ⟨-, rfl⟩ := (page?_shifted_eq_some_iff k' form state' shifted').1 there'
  rw [customizer_of_make made, customizer_of_make made']
  have pages := complete_letters_congr made made' same form
  constructor
  · rw [shape_shifted made, shape_shifted made', pages]
  · intro n i
    rw [rowOr_shifted made, rowOr_shifted made', ← pages, List.getElem?_map, List.getElem?_map]
    cases ((complete c form (k.letters form)).rowOr n)[i]? with
    | none => simp
    | some key =>
      have keys := Key.shiftedIn_ne_iff locales n key
      simpa using keys

/-! ## All pages -/

theorem symbols_page_congr (made : make name c grid FirstSymbols.make second = .ok k)
    (made' : make name' c' grid' FirstSymbols.make second' = .ok k') (currency : c.currency = c'.currency)
    (quotes : c.SameQuotes c') (form : FormFactor) : k.page? form .symbols = k'.page? form .symbols := by
  obtain ⟨-, symbols, -, hs, -, rfl⟩ := make_eq_ok_iff.1 made
  obtain ⟨-, symbols', -, hs', -, rfl⟩ := make_eq_ok_iff.1 made'
  rw [FirstSymbols.make_congr currency quotes, hs', Except.ok.injEq] at hs
  subst hs
  rfl

theorem symbolsShifted_page_congr (made : make name c grid first SecondSymbols.make = .ok k)
    (made' : make name' c' grid' first' SecondSymbols.make = .ok k') (currency : c.currency = c'.currency)
    (form : FormFactor) : k.page? form .symbolsShifted = k'.page? form .symbolsShifted := by
  obtain ⟨-, -, symbols, -, hs, rfl⟩ := make_eq_ok_iff.1 made
  obtain ⟨-, -, symbols', -, hs', rfl⟩ := make_eq_ok_iff.1 made'
  rw [SecondSymbols.make_congr currency, hs', Except.ok.injEq] at hs
  subst hs
  rfl

/-- **What the pages of a keyboard hang on**, seen from two keyboards.  Letters that come from one grid and the same
choices about letters are the same page, whatever the name, the locale, the currency and the quotes.  Shifted they are
the same if both locales are Turkic or neither is, and else differ at keys with the small letter i alone.  The first
page of symbols hangs on the currency and the quotes, the second one on the currency, whatever the letters. -/
theorem pages_hang_on_settings (made : make name c grid FirstSymbols.make SecondSymbols.make = .ok k)
    (made' : make name' c' grid' FirstSymbols.make SecondSymbols.make = .ok k') (form : FormFactor) :
    (grid = grid' → c.SameLetters c' →
      k.page? form .letters = k'.page? form .letters ∧
      ∀ state state',
        ((c.locale.Turkic ↔ c'.locale.Turkic) → k.page? form (.shifted state) = k'.page? form (.shifted state')) ∧
        (¬ (c.locale.Turkic ↔ c'.locale.Turkic) →
          (k.page? form (.shifted state) = none ↔ k'.page? form (.shifted state') = none) ∧
          ∀ letters shifted shifted', k.page? form .letters = some letters →
            k.page? form (.shifted state) = some shifted → k'.page? form (.shifted state') = some shifted' →
              DifferAtSmallI letters shifted shifted')) ∧
    (c.currency = c'.currency → c.SameQuotes c' → k.page? form .symbols = k'.page? form .symbols) ∧
    (c.currency = c'.currency → k.page? form .symbolsShifted = k'.page? form .symbolsShifted) := by
  refine ⟨?_, fun currency quotes => symbols_page_congr made made' currency quotes form,
    fun currency => symbolsShifted_page_congr made made' currency form⟩
  rintro rfl same
  refine ⟨letters_page_congr made made' same form, fun state state' => ⟨?_, ?_⟩⟩
  · exact fun locales => shifted_page_congr made made' same locales form state state'
  · intro locales
    constructor
    · rw [page?_eq_none_iff k form rfl, page?_eq_none_iff k' form rfl, grid_of_make made, grid_of_make made']
      simp [Element.isShifted]
    · intro letters shifted shifted' plain there there'
      exact differAtSmallI_of_shifted made made' same locales plain there there'

/-- English and Turkish disagree about the last key and about what the first one offers, and agree about the others; the
full stop offers the letter, but in no upper case.  Azeri agrees with Turkish, though it shows another currency. -/
theorem pages_hang_on_settings_of_dotted_letters :
    ∃ (english turkish azeri : Customizer) (grid : Grid) (k₁ k₂ k₃ : Keyboard),
      make "english" english grid FirstSymbols.make SecondSymbols.make = .ok k₁ ∧
      make "turkish" turkish grid FirstSymbols.make SecondSymbols.make = .ok k₂ ∧
      make "azeri" azeri grid FirstSymbols.make SecondSymbols.make = .ok k₃ ∧
      english.extraPunctuation = Key.labels ["i"] ∧ english.currency ≠ azeri.currency ∧
      k₁.page? .phone .letters = k₃.page? .phone .letters ∧
      k₂.page? .phone (.shifted .manual) = k₃.page? .phone (.shifted .locked) ∧
      k₁.page? .phone .symbols = k₂.page? .phone .symbols ∧
      k₁.page? .phone .symbolsShifted = k₂.page? .phone .symbolsShifted ∧
      ∃ letters shifted shifted', k₁.page? .phone .letters = some letters ∧
        letters.rowOr 1 = [.labelOffering "e" ["ie"], .label "a", .label "i"] ∧
        k₁.page? .phone (.shifted .manual) = some shifted ∧ k₂.page? .phone (.shifted .locked) = some shifted' ∧
        (shifted.rowOr 1)[0]? ≠ (shifted'.rowOr 1)[0]? ∧ (shifted.rowOr 1)[1]? = (shifted'.rowOr 1)[1]? ∧
        (shifted.rowOr 1)[2]? ≠ (shifted'.rowOr 1)[2]? ∧ shifted.rowOr 4 = shifted'.rowOr 4 := by
  let custom : Locale → Customizer := fun l => { Customizer.standard l with
    accents := ⟨[("e", Key.labels ["ie"])], List.pairwise_singleton _ _⟩, extraPunctuation := Key.labels ["i"] }
  let english := custom ⟨"en", none, by decide +kernel, by decide +kernel⟩
  let turkish := custom ⟨"tr", none, by decide +kernel, by decide +kernel⟩
  let azeri := { custom ⟨"az", none, by decide +kernel, by decide +kernel⟩ with currency := .euro }
  let grid : Grid := ⟨⟨[Key.labels ["e", "a", "i"]]⟩, none, false⟩
  have usable : ∀ form, (grid.page form).Usable := fun form => by cases form <;> decide +kernel
  obtain ⟨k₁, made₁⟩ := exists_make "english" english usable
  obtain ⟨k₂, made₂⟩ := exists_make "turkish" turkish usable
  obtain ⟨k₃, made₃⟩ := exists_make "azeri" azeri usable
  have differ : ¬ (english.locale.Turkic ↔ turkish.locale.Turkic) := by
    rw [← Locale.hasDottedCapital_eq_iff]
    decide
  have agree : turkish.locale.Turkic ↔ azeri.locale.Turkic := by
    rw [← Locale.hasDottedCapital_eq_iff]
    decide
  have quotes : english.SameQuotes turkish := ⟨rfl, rfl, rfl, rfl⟩
  obtain ⟨byLetters, bySymbols, byCurrency⟩ := pages_hang_on_settings made₁ made₂ .phone
  have sameLetters := ((pages_hang_on_settings made₁ made₃ .phone).1 rfl ⟨rfl, rfl, rfl⟩).1
  have bothTurkic := (((pages_hang_on_settings made₂ made₃ .phone).1 rfl ⟨rfl, rfl, rfl⟩).2 .manual .locked).1 agree
  have there₁ := (page?_shifted_eq_some_iff k₁ .phone .manual _).2 ⟨by rw [grid_of_make made₁], rfl⟩
  have there₂ := (page?_shifted_eq_some_iff k₂ .phone .locked _).2 ⟨by rw [grid_of_make made₂], rfl⟩
  have oneIsTurkic := (((byLetters rfl ⟨rfl, rfl, rfl⟩).2 .manual .locked).2 differ).2 _ _ _ rfl there₁ there₂
  have row : (complete k₁.customizer .phone (k₁.letters .phone)).rowOr 1 =
      [.labelOffering "e" ["ie"], .label "a", .label "i"] := by
    rw [rowOr_mk _ (rows_complete_letters made₁ .phone), letters_eq_mapKeys, customizer_of_make made₁,
      grid_of_make made₁]
    rfl
  have places := oneIsTurkic.places 1
  rw [row] at places
  have inOffer : (Key.labelOffering "e" ["ie"]).HasSmallI :=
    .offered (List.mem_singleton_self (Key.label "ie")) (.drawn (show 'i' ∈ "ie".toList by decide))
  have alone : (Key.label "i").HasSmallI := .drawn (show 'i' ∈ "i".toList by decide)
  have nowhere : ¬ (Key.label "a").HasSmallI := by
    rw [Key.label, Key.hasSmallI_mk_iff]
    simp [Visual.HasSmallI, Output.HasSmallI, Output.ofLabel, Code.ofChar]
  refine ⟨english, turkish, azeri, grid, k₁, k₂, k₃, made₁, made₂, made₃, rfl, by decide, sameLetters, bothTurkic,
    bySymbols rfl quotes, byCurrency rfl, _, _, _, rfl, row, there₁, there₂, ?_, ?_, ?_, ?_⟩
  · exact (places 0).2 ⟨by decide, _, rfl, inOffer⟩
  · refine Classical.byContradiction fun differs => ?_
    obtain ⟨-, key, stands, has⟩ := (places 1).1 differs
    cases stands
    exact nowhere has
  · exact (places 2).2 ⟨by decide, _, rfl, alone⟩
  · refine List.ext_getElem? fun i => Classical.byContradiction fun differs => ?_
    exact ((oneIsTurkic.places 4 i).1 differs).1 rfl

end Keyboard

end ScreenKeyboard
