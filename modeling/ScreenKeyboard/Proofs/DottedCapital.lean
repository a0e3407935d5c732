import ScreenKeyboard.Key.Casing
/-!
# The capitals of one letter

Upper case hangs on the locale for one character alone: the small letter i, whose capital keeps the dot in Turkic
languages.  So two locales put a key into upper case in the same way, unless one of them is Turkic and the other is not
and the key has that letter: in its label, in its text or as its code, or in a key that it offers
(`Key.upper_eq_upper_iff`).
-/
namespace ScreenKeyboard

/-! ## Texts -/

namespace Locale

/-- The languages that have an i with a dot and one without. -/
def Turkic (l : Locale) : Prop := l.language = "tr" ∨ l.language = "az"

instance (l : Locale) : Decidable l.Turkic := inferInstanceAs (Decidable (_ ∨ _))

variable {l l' : Locale}

theorem hasDottedCapital_iff (l : Locale) : l.hasDottedCapital = true ↔ l.Turkic := by
  simp [hasDottedCapital, Turkic]

theorem hasDottedCapital_eq_iff : l.hasDottedCapital = l'.hasDottedCapital ↔ (l.Turkic ↔ l'.Turkic) := by
  rw [← hasDottedCapital_iff, ← hasDottedCapital_iff, Bool.eq_iff_iff]

theorem upperChars_congr (same : l.Turkic ↔ l'.Turkic) : l.upperChars = l'.upperChars := by
  funext c
  unfold upperChars
  rw [hasDottedCapital_eq_iff.2 same]

theorem upperChars_of_ne (l l' : Locale) {c : Char} (h : c ≠ 'i') : l.upperChars c = l'.upperChars c := by
  have other : (c == 'i') = false := by simpa using h
  simp only [upperChars, other, Bool.and_false, Bool.false_eq_true, if_false]

theorem upperChars_i (l : Locale) : l.upperChars 'i' = [if l.hasDottedCapital then 'İ' else 'I'] := by
  have plain : Text.upperChars 'i' = ['I'] := by decide +kernel
  cases h : l.hasDottedCapital <;> simp [upperChars, h, plain]

theorem capital_i_ne (differ : ¬ (l.Turkic ↔ l'.Turkic)) :
    (if l.hasDottedCapital then 'İ' else 'I') ≠ if l'.hasDottedCapital then 'İ' else 'I' := by
  have unlike := mt hasDottedCapital_eq_iff.1 differ
  cases h : l.hasDottedCapital <;> cases h' : l'.hasDottedCapital
  · exact absurd (h.trans h'.symm) unlike
  · decide
  · decide
  · exact absurd (h.trans h'.symm) unlike

/-- The two capitals are single characters, so the first place where they stand tells the texts apart. -/
theorem flatMap_upperChars_eq_iff (differ : ¬ (l.Turkic ↔ l'.Turkic)) : ∀ cs : List Char,
    cs.flatMap l.upperChars = cs.flatMap l'.upperChars ↔ 'i' ∉ cs
  | [] => by simp
  | c :: cs => by
    rw [List.flatMap_cons, List.flatMap_cons, List.mem_cons, not_or]
    by_cases h : c = 'i'
    · subst h
      rw [upperChars_i, upperChars_i, List.singleton_append, List.singleton_append, List.cons.injEq]
      constructor
      · rintro ⟨first, -⟩
        exact absurd first (capital_i_ne differ)
      · rintro ⟨not_i, -⟩
        exact absurd rfl not_i
    · rw [upperChars_of_ne l l' h, List.append_right_inj, flatMap_upperChars_eq_iff differ cs]
      exact ⟨fun rest => ⟨Ne.symm h, rest⟩, fun both => both.2⟩

theorem upperText_eq_iff (differ : ¬ (l.Turkic ↔ l'.Turkic)) (text : String) :
    l.upperText text = l'.upperText text ↔ 'i' ∉ text.toList := by
  rw [upperText, upperText, String.ofList_inj, flatMap_upperChars_eq_iff differ]

end Locale

/-! ## Codes -/

namespace Code

theorem eq_ofChar_of_char? {code : Code} {c : Char} (h : code.char? = some c) : code = ofChar c := by
  unfold char? at h
  split at h
  · rename_i n
    by_cases valid : n.isValidChar
    · rw [if_pos valid, Option.some.injEq] at h
      subst h
      rw [Char.ofNat, dif_pos valid]
      rfl
    · rw [if_neg valid] at h
      cases h
  · cases h

variable {l l' : Locale}

theorem upper_congr (same : l.Turkic ↔ l'.Turkic) (code : Code) : code.upper l = code.upper l' := by
  unfold upper
  rw [Locale.upperChars_congr same]

theorem upper_i (l : Locale) :
    (ofChar 'i').upper l = .code (ofChar (if l.hasDottedCapital then 'İ' else 'I')) := by
  have letter : (ofChar 'i').isLetter = true := by decide
  rw [upper, if_pos letter, char?_ofChar]
  dsimp only
  rw [Locale.upperChars_i, Output.ofLabel, String.toList_ofList]

theorem upper_eq_iff (differ : ¬ (l.Turkic ↔ l'.Turkic)) (code : Code) :
    code.upper l = code.upper l' ↔ code ≠ ofChar 'i' := by
  by_cases h : code = ofChar 'i'
  · subst h
    rw [upper_i, upper_i, Output.code.injEq]
    constructor
    · intro same
      have chars := congrArg char? same
      rw [char?_ofChar, char?_ofChar, Option.some.injEq] at chars
      exact absurd chars (Locale.capital_i_ne differ)
    · exact fun no => absurd rfl no
  · refine ⟨fun _ => h, fun _ => ?_⟩
    unfold upper
    cases hc : code.char? with
    | none => rfl
    | some c =>
      have other : c ≠ 'i' := by
        rintro rfl
        exact h (eq_ofChar_of_char? hc)
      dsimp only
      rw [Locale.upperChars_of_ne l l' other]

end Code

/-! ## Keys -/

/-- Whether a label has the letter; the name of an icon is not drawn. -/
def Visual.HasSmallI : Visual → Prop
  | .label text => 'i' ∈ text.toList
  | .icon _ => False

/-- Whether the letter is emitted, alone or in a text. -/
def Output.HasSmallI : Output → Prop
  | .code c => c = Code.ofChar 'i'
  | .text t => 'i' ∈ t.toList

/-- **A key with the small letter i**, at any depth. -/
inductive Key.HasSmallI : Key → Prop
  | drawn {visual : Visual} {output : Output} {more : List Key} (h : visual.HasSmallI) :
    HasSmallI ⟨visual, output, more⟩
  | emitted {visual : Visual} {output : Output} {more : List Key} (h : output.HasSmallI) :
    HasSmallI ⟨visual, output, more⟩
  | offered {visual : Visual} {output : Output} {more : List Key} {key : Key} (mem : key ∈ more) (h : key.HasSmallI) :
    HasSmallI ⟨visual, output, more⟩

variable {l l' : Locale}

theorem Visual.upper_eq_iff (differ : ¬ (l.Turkic ↔ l'.Turkic)) (visual : Visual) :
    visual.upper l = visual.upper l' ↔ ¬ visual.HasSmallI := by
  cases visual with
  | label text =>
    rw [upper, upper, Visual.label.injEq]
    exact Locale.upperText_eq_iff differ text
  | icon name => simp [upper, HasSmallI]

theorem Output.upper_eq_iff (differ : ¬ (l.Turkic ↔ l'.Turkic)) (output : Output) :
    output.upper l = output.upper l' ↔ ¬ output.HasSmallI := by
  cases output with
  | code code => exact Code.upper_eq_iff differ code
  | text text =>
    rw [upper, upper, Output.text.injEq]
    exact Locale.upperText_eq_iff differ text

namespace Key

theorem hasSmallI_mk_iff (visual : Visual) (output : Output) (more : List Key) :
    HasSmallI ⟨visual, output, more⟩ ↔ visual.HasSmallI ∨ output.HasSmallI ∨ ∃ key ∈ more, key.HasSmallI := by
  constructor
  · intro h
    cases h with
    | drawn h => exact .inl h
    | emitted h => exact .inr (.inl h)
    | offered mem h => exact .inr (.inr ⟨_, mem, h⟩)
  · rintro (h | h | ⟨key, mem, h⟩)
    · exact .drawn h
    · exact .emitted h
    · exact .offered mem h

mutual

/-- **A Turkic locale and another one put a key into upper case differently exactly when it has the letter.** -/
theorem upper_eq_upper_iff (differ : ¬ (l.Turkic ↔ l'.Turkic)) : ∀ key : Key,
    key.upper l = key.upper l' ↔ ¬ key.HasSmallI
  | ⟨visual, output, more⟩ => by
    rw [upper, upper, Key.mk.injEq, Visual.upper_eq_iff differ, Output.upper_eq_iff differ,
      upperList_eq_upperList_iff differ more, hasSmallI_mk_iff, not_or, not_or, not_exists]
    simp only [not_and]

theorem upperList_eq_upperList_iff (differ : ¬ (l.Turkic ↔ l'.Turkic)) : ∀ keys : List Key,
    upperList l keys = upperList l' keys ↔ ∀ key ∈ keys, ¬ key.HasSmallI
  | [] => by simp [upperList]
  | key :: keys => by
    rw [upperList, upperList, List.cons.injEq, upper_eq_upper_iff differ key, upperList_eq_upperList_iff differ keys,
      List.forall_mem_cons]

end

mutual

theorem upper_congr (same : l.Turkic ↔ l'.Turkic) : ∀ key : Key, key.upper l = key.upper l'
  | ⟨visual, output, more⟩ => by
    have drawn : visual.upper l = visual.upper l' := by
      cases visual with
      | label text => rw [Visual.upper, Visual.upper, Locale.upperText, Locale.upperText, Locale.upperChars_congr same]
      | icon name => rfl
    have emitted : output.upper l = output.upper l' := by
      cases output with
      | code code => exact Code.upper_congr same code
      | text text => rw [Output.upper, Output.upper, Locale.upperText, Locale.upperText, Locale.upperChars_congr same]
    rw [upper, upper, drawn, emitted, upperList_congr same more]

theorem upperList_congr (same : l.Turkic ↔ l'.Turkic) : ∀ keys : List Key, upperList l keys = upperList l' keys
  | [] => rfl
  | key :: keys => by rw [upperList, upperList, upper_congr same key, upperList_congr same keys]

end

/-- A key that neither a Turkic locale nor another one changes is changed by none. -/
theorem upper_of_both (turkic : l.Turkic) (other : ¬ l'.Turkic) {key : Key} (same : key.upper l = key)
    (same' : key.upper l' = key) (m : Locale) : key.upper m = key := by
  by_cases alike : m.Turkic
  · exact (upper_congr (iff_of_true alike turkic) key).trans same
  · exact (upper_congr (iff_of_false alike other) key).trans same'

end Key

end ScreenKeyboard
