import ScreenKeyboard.Proofs.EveryKey
/-!
# Keys that emit what they show

A key of a definition is made from labels alone, so it emits what it shows, and so does everything that it offers
(`Key.FromLabel`).  Making a key from labels and putting it into upper case can be done in either order, and keys of
this sort stay so on shifted pages (`upper_follows_label`): where the upper case of a letter is one character the key
emits its code, and where it is several the key emits a text.
-/
namespace ScreenKeyboard

/-- The labels of a key in upper case, the one that is drawn and those that are offered. -/
def KeySpec.upper (l : Locale) : KeySpec → KeySpec
  | .plain label => .plain (l.upperText label)
  | .offering label more => .offering (l.upperText label) (more.map l.upperText)

namespace Key

variable {l : Locale}

/-- What is emitted is what the label shows. -/
def FromLabel (visual : Visual) (output : Output) : Prop := visual.output? = some output

instance : ∀ visual output, Decidable (FromLabel visual output) :=
  fun visual output => inferInstanceAs (Decidable (visual.output? = some output))

theorem upper_labels (l : Locale) (texts : List String) :
    (labels texts).map (upper l) = labels (texts.map l.upperText) := by
  unfold labels
  rw [List.map_map, List.map_map]
  exact List.map_congr_left fun text _ => upper_label l text

theorem upper_labelOffering (l : Locale) (text : String) (more : List String) :
    (labelOffering text more).upper l = labelOffering (l.upperText text) (more.map l.upperText) := by
  unfold labelOffering
  rw [upper_offering, upper_label, upper_labels]

theorem fromLabel_upper {visual : Visual} {output : Output} (own : FromLabel visual output) :
    FromLabel (visual.upper l) (output.upper l) := by
  cases visual with
  | icon name => cases own
  | label text =>
    obtain rfl := Option.some.inj own
    rw [Output.upper_ofLabel]
    rfl

theorem Throughout.ne_shift {key : Key} (own : key.Throughout FromLabel) : key ≠ shift := by
  rintro rfl
  exact nomatch (throughout_mk_iff.1 own).1

/-- The output of a letter in upper case: one character is a code, several are a text. -/
theorem output_upper_singleton (l : Locale) (c : Char) : ((label (String.singleton c)).upper l).output =
    match l.upperChars c with
    | [d] => .code (.ofChar d)
    | cs => .text (String.ofList cs) := by
  have capital : l.upperText (String.singleton c) = String.ofList (l.upperChars c) := by
    rw [Locale.upperText, String.toList_singleton, List.flatMap_singleton]
  rw [upper_label, capital]
  change Output.ofLabel _ = _
  rw [Output.ofLabel, String.toList_ofList]
  cases l.upperChars c with
  | nil => rfl
  | cons d ds => cases ds <;> rfl

end Key

/-- A key of a definition can be put into upper case as a key or as labels. -/
theorem KeySpec.key_upper (l : Locale) (spec : KeySpec) : (spec.upper l).key = spec.key.upper l := by
  cases spec with
  | plain label => exact (Key.upper_label l label).symm
  | offering label more => exact (Key.upper_labelOffering l label more).symm

namespace Keyboard

variable {name : String} {c : Customizer} {grid : Grid} {first second : SymbolMaker} {k : Keyboard} {form : FormFactor}

/-- In the place of a key that emits what it shows, a shifted page has one of this sort. -/
theorem fromLabel_of_shifted_page (made : make name c grid first second = .ok k) {state : ShiftState}
    {letters shifted : Page} (hl : k.page? form .letters = some letters)
    (hs : k.page? form (.shifted state) = some shifted) {n : RowNumber} {i : Nat} {key : Key}
    (there : (letters.rowOr n)[i]? = some key) (own : key.Throughout Key.FromLabel) :
    (shifted.rowOr n)[i]? = some (if n = spaceBarRow then key else key.upper c.locale) ∧
      (if n = spaceBarRow then key else key.upper c.locale).Throughout Key.FromLabel := by
  obtain ⟨-, rfl⟩ := (page?_shifted_eq_some_iff k form state shifted).1 hs
  obtain rfl : complete k.customizer form (k.letters form) = letters := Option.some.inj hl
  rw [customizer_of_make made] at there ⊢
  constructor
  · rw [rowOr_shifted made, List.getElem?_map, there, Option.map_some, Key.shiftedIn, if_neg own.ne_shift]
  · split
    · exact own
    · exact own.upper fun _ _ => Key.fromLabel_upper

end Keyboard

/-- **Upper case and making keys from labels go together**, for every text and every locale, and so for every key of a
definition with what it offers.  Of a letter the key emits the code of its upper case, or a text where that is several
characters.  A key that emits what it shows at every depth still does so in upper case, and in its place on every
shifted page. -/
theorem Key.upper_follows_label :
    (∀ (l : Locale) (text : String), (label text).upper l = label (l.upperText text)) ∧
    (∀ (l : Locale) (c : Char), ((label (String.singleton c)).upper l).output =
      match l.upperChars c with
      | [d] => .code (.ofChar d)
      | cs => .text (String.ofList cs)) ∧
    (∀ (l : Locale) (spec : KeySpec), spec.key.upper l = (spec.upper l).key) ∧
    (∀ (l : Locale) (key : Key), key.Throughout FromLabel → (key.upper l).Throughout FromLabel) ∧
    ∀ name c grid first second k, Keyboard.make name c grid first second = .ok k →
      ∀ form state letters shifted, k.page? form .letters = some letters →
        k.page? form (.shifted state) = some shifted →
        ∀ (n : RowNumber) (i : Nat) (key : Key), (letters.rowOr n)[i]? = some key → key.Throughout FromLabel →
          (shifted.rowOr n)[i]? = some (if n = spaceBarRow then key else key.upper c.locale) ∧
          (if n = spaceBarRow then key else key.upper c.locale).Throughout FromLabel := by
  refine ⟨upper_label, output_upper_singleton, fun l spec => (spec.key_upper l).symm, ?_, ?_⟩
  · intro l key own
    exact own.upper fun _ _ => fromLabel_upper
  · intro name c grid first second k made form state letters shifted hl hs n i key there own
    exact Keyboard.fromLabel_of_shifted_page made hl hs there own

/-- The sharp s of a Turkish keyboard becomes a text, and the i that it offers another code. -/
theorem Key.upper_follows_label_of_sharp_s :
    ∃ (k : Keyboard) (letters shifted : Page), k.customizer.locale.language = "tr" ∧
      k.page? .phone .letters = some letters ∧ k.page? .phone (.shifted .manual) = some shifted ∧
      (letters.rowOr 1)[0]? = some (labelOffering "ß" ["i"]) ∧
      (shifted.rowOr 1)[0]? = some (labelOffering "SS" ["İ"]) ∧
      (labelOffering "SS" ["İ"]).output = .text "SS" ∧ (labelOffering "SS" ["İ"]).Throughout FromLabel := by
  let c := Customizer.standard ⟨"tr", none, by decide +kernel, by decide +kernel⟩
  let grid : Grid := ⟨⟨[[labelOffering "ß" ["i"]]]⟩, none, false⟩
  have usable : ∀ form, (grid.page form).Usable := fun form => by cases form <;> decide +kernel
  obtain ⟨k, made⟩ := Keyboard.exists_make "sharp" c usable
  have cased : k.grid.caseless = false := by rw [Keyboard.grid_of_make made]
  have there := (Keyboard.page?_shifted_eq_some_iff k .phone .manual _).2 ⟨cased, rfl⟩
  have first : ((Keyboard.complete k.customizer .phone (k.letters .phone)).rowOr 1)[0]? =
      some (labelOffering "ß" ["i"]) := by
    rw [Keyboard.rowOr_mk _ (Keyboard.rows_complete_letters made .phone), Keyboard.letters_eq_mapKeys,
      Keyboard.customizer_of_make made, Keyboard.grid_of_make made]
    rfl
  have upper : (labelOffering "ß" ["i"]).upper c.locale = labelOffering "SS" ["İ"] := by decide +kernel
  obtain ⟨shown, own⟩ := upper_follows_label.2.2.2.2 _ _ _ _ _ _ made .phone .manual _ _ rfl there 1 0 _ first
    (by decide)
  rw [if_neg (by decide), upper] at shown own
  exact ⟨k, _, _, by rw [Keyboard.customizer_of_make made]; rfl, rfl, there, first, shown, rfl, own⟩

end ScreenKeyboard
