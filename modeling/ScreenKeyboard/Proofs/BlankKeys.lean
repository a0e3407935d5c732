import ScreenKeyboard.Proofs.DefinedLetters
import ScreenKeyboard.Proofs.Reload
/-!
# Blank keys

A key is blank when it is drawn with an empty label.  The check of a grid refuses blank keys, but it looks at the keys
of the rows alone: what they offer, accents and punctuation are never looked at.  So no key of a page is blank, and
which definitions have a page that offers a blank key can be read off their texts (`offers_no_blank_iff`).

Upper case plays no part here, for no character is without an upper case; nor do the function keys.
-/
namespace ScreenKeyboard

/-! ## Upper case -/

namespace Key

variable {P : Visual → Output → Prop} {l : Locale}

/-- What upper case neither gives to a key nor takes from it, it does not give to what the key offers either. -/
theorem throughout_upper_iff (kept : ∀ v o, P (v.upper l) (o.upper l) ↔ P v o) (key : Key) :
    (key.upper l).Throughout P ↔ key.Throughout P := by
  cases key with
  | mk visual output more =>
    have offered : ∀ key ∈ more, (key.upper l).Throughout P ↔ key.Throughout P :=
      fun key _ => throughout_upper_iff kept key
    rw [upper_mk, throughout_mk_iff, throughout_mk_iff, kept, List.forall_mem_map]
    exact and_congr_right fun _ => forall₂_congr offered

/-- Something is drawn: an icon, or a label that is not empty. -/
def Drawn (visual : Visual) (_ : Output) : Prop := visual ≠ .label ""

instance : ∀ visual output, Decidable (Drawn visual output) :=
  fun visual _ => inferInstanceAs (Decidable (visual ≠ .label ""))

theorem drawn_label_iff (text : String) (output : Output) : Drawn (.label text) output ↔ text ≠ "" := by
  rw [Drawn, Ne, Visual.label.injEq]

theorem Throughout.visual_ne_empty {key : Key} (all : key.Throughout Drawn) : key.visual ≠ .label "" := by
  cases all with
  | mk here _ => exact here

theorem drawn_upper_iff (visual : Visual) (output : Output) :
    Drawn (visual.upper l) (output.upper l) ↔ Drawn visual output := by
  cases visual with
  | icon name => exact Iff.rfl
  | label text => rw [Visual.upper, drawn_label_iff, drawn_label_iff, Ne, l.upperText_eq_empty_iff]

theorem drawn_of_stock (visual : Visual) (output : Output) (stocked : Stock visual output) : Drawn visual output := by
  have own : ∀ function ∈ functions, Drawn function.1 function.2 := by decide
  cases visual with
  | icon name => exact fun icon => by cases icon
  | label text =>
    rcases stocked with ⟨filled, -⟩ | function
    · exact (drawn_label_iff text output).2 filled
    · exact own _ function

theorem throughout_drawn_labels_iff (texts : List String) :
    (∀ key ∈ labels texts, key.Throughout Drawn) ↔ "" ∉ texts := by
  unfold labels
  rw [List.forall_mem_map]
  constructor
  · intro all blank
    exact (throughout_mk_iff.1 (all "" blank)).1 rfl
  · intro none text listed
    exact throughout_label ((drawn_label_iff text _).2 fun empty => none (empty ▸ listed))

theorem throughout_drawn_labelOffering_iff (text : String) (more : List String) :
    (labelOffering text more).Throughout Drawn ↔ text ≠ "" ∧ "" ∉ more := by
  rw [← throughout_drawn_labels_iff, ← drawn_label_iff text (.ofLabel text)]
  exact throughout_mk_iff

end Key

/-! ## Which pages offer a blank key -/

/-- All texts that the keys of a form factor offer: those of the letters, and those that the full stop offers in
addition to its own. -/
def Definition.offeredTexts (d : Definition) (form : FormFactor) : List String :=
  (d.lettersAbove form).flatMap d.offers ++ d.policy.extraPunctuation.getD []

namespace Keyboard

variable {first second : SymbolMaker} {k : Keyboard} {d : Definition} {form : FormFactor} {page : Page}

theorem drawn_around : ∀ key ∈ aroundLetters, key.Throughout Key.Drawn := by decide

theorem drawn_fullStop_iff (locale : Locale) (p : Policy) (form : FormFactor) :
    ((Key.label ".").offering ((Customizer.ofPolicy locale p).punctuation form)).Throughout Key.Drawn ↔
      "" ∉ p.extraPunctuation.getD [] := by
  have fullStop : Key.Drawn (.label ".") (.ofLabel ".") := by decide
  have own : ∀ key ∈ Key.phonePunctuation ++ Key.tabletPunctuation, key.Throughout Key.Drawn := by decide +kernel
  obtain ⟨ownPhone, ownTablet⟩ := List.forall_mem_append.1 own
  refine Key.throughout_mk_iff.trans ((and_iff_right fullStop).trans ?_)
  rw [← Key.throughout_drawn_labels_iff]
  cases form with
  | phone => exact List.forall_mem_append.trans (and_iff_right ownPhone)
  | tablet => exact List.forall_mem_append.trans (and_iff_right ownTablet)

/-- The page of letters offers a blank key exactly if an empty text is offered. -/
theorem drawn_letters_page_iff (made : ofDefinition d first second = .ok k)
    (there : k.page? form .letters = some page) : page.Throughout Key.Drawn ↔ "" ∉ d.offeredTexts form := by
  obtain ⟨locale, -, made'⟩ := make_of_ofDefinition made
  have labels : ∀ spec ∈ d.lettersAbove form,
      ((Key.labelOffering spec.label (d.offers spec)).Throughout Key.Drawn ↔ "" ∉ d.offers spec) := by
    intro spec listed
    rw [Key.throughout_drawn_labelOffering_iff]
    exact and_iff_right (label_ne_empty_of_mem_lettersAbove made form spec listed)
  unfold Page.Throughout
  rw [forall_mem_letters_page_iff drawn_around made there, customizer_of_make made', drawn_fullStop_iff,
    forall₂_congr labels, Definition.offeredTexts, List.mem_append, not_or, List.mem_flatMap]
  simp only [not_exists, not_and]

theorem label_ne_empty_of_mem_letters_page (made : ofDefinition d first second = .ok k)
    (there : k.page? form .letters = some page) : ∀ key ∈ page.keys, key.visual ≠ .label "" := by
  have around : ∀ key ∈ aroundLetters, key.visual ≠ .label "" := by decide
  have fullStop : (Key.label ".").visual ≠ .label "" := by decide
  refine (forall_mem_letters_page_iff around made there).2 ⟨fun spec listed blank => ?_, fullStop⟩
  exact label_ne_empty_of_mem_lettersAbove made form spec listed (Visual.label.inj blank)

/-- What is drawn of the letters is drawn in upper case too, so a shifted page is as the page of letters. -/
theorem drawn_shifted_page_iff (made : ofDefinition d first second = .ok k) {state : ShiftState}
    (there : k.page? form (.shifted state) = some page) :
    (∀ key ∈ page.keys, key.visual ≠ .label "") ∧ (page.Throughout Key.Drawn ↔ "" ∉ d.offeredTexts form) := by
  have kept : ∀ l key, (Key.upper l key).visual ≠ .label "" ↔ key.visual ≠ .label "" := by
    rintro l ⟨visual, output, more⟩
    rw [Key.upper_mk]
    exact Key.drawn_upper_iff visual output
  have letters : k.page? form .letters = some (complete k.customizer form (k.letters form)) := rfl
  constructor
  · rw [forall_mem_shifted_page_iff kept (by decide) (by decide) made there]
    exact label_ne_empty_of_mem_letters_page made letters
  · rw [← drawn_letters_page_iff made letters]
    exact forall_mem_shifted_page_iff (fun l => Key.throughout_upper_iff Key.drawn_upper_iff) (by decide) (by decide)
      made there

theorem drawn_symbols_page (made : ofDefinition d FirstSymbols.make SecondSymbols.make = .ok k) {element : Element}
    (there : k.page? form element = some page) (isSymbols : element.isSymbols = true) : page.Throughout Key.Drawn := by
  obtain ⟨locale, -, made⟩ := make_of_ofDefinition made
  obtain ⟨-, symbols, shifted, firstMade, secondMade, rfl⟩ := make_eq_ok_iff.1 made
  have stocked : page.Throughout Key.Stock := by
    cases element with
    | symbols =>
      cases there
      exact FirstSymbols.throughout_page firstMade form
    | symbolsShifted =>
      cases there
      exact SecondSymbols.throughout_page secondMade form
    | _ => cases isSymbols
  exact fun key hk => (stocked key hk).mono Key.drawn_of_stock

/-- **No key of a page is blank, and a page offers a blank key, at whatever depth, exactly if the definition has an
empty text among those that its letters and the full stop offer.**  The pages of symbols offer none. -/
theorem offers_no_blank_iff (made : ofDefinition d FirstSymbols.make SecondSymbols.make = .ok k) {element : Element}
    (there : k.page? form element = some page) :
    (∀ key ∈ page.keys, key.visual ≠ .label "") ∧
      (page.Throughout Key.Drawn ↔ element.isSymbols = true ∨ "" ∉ d.offeredTexts form) := by
  by_cases isSymbols : element.isSymbols = true
  · have drawn := drawn_symbols_page made there isSymbols
    exact ⟨fun key hk => (drawn key hk).visual_ne_empty, iff_of_true drawn (.inl isSymbols)⟩
  · rw [or_iff_right isSymbols]
    cases element with
    | letters => exact ⟨label_ne_empty_of_mem_letters_page made there, drawn_letters_page_iff made there⟩
    | shifted state => exact drawn_shifted_page_iff made there
    | symbols => exact absurd rfl isSymbols
    | symbolsShifted => exact absurd rfl isSymbols
    | phonePad => cases there
    | phonePadSymbols => cases there
    | numberPad => cases there

/-- What the keys offer, an accent and the punctuation are blank, and nothing else is. -/
def blankOffers : Definition := { Definition.unset with
  name := "blank"
  locale := Locale.parse? "en"
  phoneRows := [[.plain "a", .offering "b" [""]], [.plain "c"], [.plain "d"]]
  policy := { Policy.unset with
    accents := some ⟨[("a", [""])], List.pairwise_singleton _ _⟩
    extraPunctuation := some [""] } }

/-- The check looks at none of these places, so the file is accepted without a warning. -/
theorem offers_no_blank_iff_of_blank_offers :
    ∃ (k : Keyboard) (page : Page), Definition.load blankOffers.toJson.compact = .ok ⟨blankOffers, []⟩ ∧
      ofDefinition blankOffers FirstSymbols.make SecondSymbols.make = .ok k ∧ k.page? .phone .letters = some page ∧
      (∀ key ∈ page.keys, key.visual ≠ .label "") ∧ ¬ page.Throughout Key.Drawn := by
  have loaded := Definition.load_compact_of_sound (d := blankOffers) rfl (by decide +kernel)
  have passed := Definition.check_of_accepted (.ofText loaded)
  obtain ⟨k, made⟩ := (exists_ofDefinition_iff (d := blankOffers) rfl).2 ⟨_, passed⟩
  have there : k.page? .phone .letters = some (complete k.customizer .phone (k.letters .phone)) := rfl
  obtain ⟨drawn, blank⟩ := offers_no_blank_iff made there
  refine ⟨k, _, loaded, made, there, drawn, fun all => ?_⟩
  exact absurd (blank.1 all) (by decide +kernel)

end Keyboard

end ScreenKeyboard
