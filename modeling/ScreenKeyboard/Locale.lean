import ScreenKeyboard.Fault
/-!
# Locales

A locale is a language with an optional country, written as a tag: `de_DE`, `fr`.  The type holds
normal forms only (a language of two or three small letters, a country of two or three capital
ones), so a locale and its tag determine each other.  `Locale.parse?` reads a tag in any case, with
either separator and with blanks around it.

Locales are ordered by language, then by country; one without a country comes before those of the
same language that have one.
-/
namespace ScreenKeyboard

def isSubtag (part : List Char) : Bool :=
  (part.length == 2 || part.length == 3) && part.all Char.isAlpha

/-- A language with an optional country, both in normal form. -/
structure Locale where
  language : String
  country : Option String
  language_normal : isSubtag language.toList = true ∧ language.toList.all Char.isLower = true
  country_normal : ∀ c ∈ country, isSubtag c.toList = true ∧ c.toList.all Char.isUpper = true
deriving DecidableEq

/-! ## Letters in one case -/

theorem isLower_iff_toNat (c : Char) : c.isLower = true ↔ 97 ≤ c.toNat ∧ c.toNat ≤ 122 := by
  change (decide ('a'.val ≤ c.val) && decide (c.val ≤ 'z'.val)) = true ↔ _
  simp [UInt32.le_iff_toNat_le]

theorem isUpper_iff_toNat (c : Char) : c.isUpper = true ↔ 65 ≤ c.toNat ∧ c.toNat ≤ 90 := by
  change decide ('A'.val ≤ c.val ∧ c.val ≤ 'Z'.val) = true ↔ _
  simp [UInt32.le_iff_toNat_le]

theorem isAlpha_iff (c : Char) : c.isAlpha = true ↔ c.isUpper = true ∨ c.isLower = true := by
  change (c.isUpper || c.isLower) = true ↔ _
  simp

theorem isLower_toLower {c : Char} (h : c.isAlpha = true) : c.toLower.isLower = true := by
  unfold Char.toLower
  split
  next hc =>
    simp only [ge_iff_le, UInt32.le_iff_toNat_le] at hc
    simp [isLower_iff_toNat, UInt32.toNat_add] at hc ⊢
    omega
  next hc =>
    refine ((isAlpha_iff c).1 h).resolve_left fun hu => hc ?_
    simpa [UInt32.le_iff_toNat_le] using (isUpper_iff_toNat c).1 hu

theorem isUpper_toUpper {c : Char} (h : c.isAlpha = true) : c.toUpper.isUpper = true := by
  unfold Char.toUpper
  split
  next hc =>
    simp only [UInt32.le_iff_toNat_le] at hc
    simp [isUpper_iff_toNat, UInt32.toNat_add] at hc ⊢
    omega
  next hc =>
    refine ((isAlpha_iff c).1 h).resolve_right fun hl => hc ?_
    simpa [UInt32.le_iff_toNat_le] using (isLower_iff_toNat c).1 hl

theorem isSubtag_map {part : List Char} {f : Char → Char}
    (keeps : ∀ c, c.isAlpha = true → (f c).isAlpha = true) (h : isSubtag part = true) :
    isSubtag (part.map f) = true := by
  simp only [isSubtag, Bool.and_eq_true, List.all_eq_true, List.length_map] at h ⊢
  refine ⟨h.1, fun c hc => ?_⟩
  obtain ⟨d, hd, rfl⟩ := List.mem_map.1 hc
  exact keeps d (h.2 d hd)

theorem language_normal_of_isSubtag {part : List Char} (h : isSubtag part = true) :
    isSubtag (String.ofList (part.map Char.toLower)).toList = true ∧
      (String.ofList (part.map Char.toLower)).toList.all Char.isLower = true := by
  rw [String.toList_ofList]
  refine ⟨isSubtag_map (fun c hc => (isAlpha_iff _).2 (.inr (isLower_toLower hc))) h, ?_⟩
  simp only [isSubtag, Bool.and_eq_true, List.all_eq_true] at h
  simpa using fun c hc => isLower_toLower (h.2 c hc)

theorem country_normal_of_isSubtag {part : List Char} (h : isSubtag part = true) :
    isSubtag (String.ofList (part.map Char.toUpper)).toList = true ∧
      (String.ofList (part.map Char.toUpper)).toList.all Char.isUpper = true := by
  rw [String.toList_ofList]
  refine ⟨isSubtag_map (fun c hc => (isAlpha_iff _).2 (.inl (isUpper_toUpper hc))) h, ?_⟩
  simp only [isSubtag, Bool.and_eq_true, List.all_eq_true] at h
  simpa using fun c hc => isUpper_toUpper (h.2 c hc)

namespace Locale

/-! ## Reading and writing -/

def ofParts? (language : List Char) (country : Option (List Char)) : Option Locale :=
  if hl : isSubtag language = true then
    match country with
    | none => some ⟨String.ofList (language.map Char.toLower), none,
        language_normal_of_isSubtag hl, by simp⟩
    | some part =>
      if hc : isSubtag part = true then
        some ⟨String.ofList (language.map Char.toLower),
          some (String.ofList (part.map Char.toUpper)),
          language_normal_of_isSubtag hl, by simpa using country_normal_of_isSubtag hc⟩
      else none
  else none

def isSeparator (c : Char) : Bool := c == '_' || c == '-'

/-- The locale of the characters of a tag without blanks around it.  A second separator is part of
the country, and so refused. -/
def ofTag? (tag : List Char) : Option Locale :=
  ofParts? (tag.takeWhile fun c => !isSeparator c)
    (match tag.dropWhile fun c => !isSeparator c with
      | [] => none
      | _ :: country => some country)

/-- The locale that a tag stands for: language and country in any case, separated by `_` or `-`,
with blanks around them. -/
def parse? (tag : String) : Option Locale := ofTag? (Text.trimChars tag.toList)

def joined (language : String) (country : Option String) : String :=
  match country with
  | none => language
  | some country => language ++ "_" ++ country

def tag (l : Locale) : String := joined l.language l.country

def ofParts (language : String) (country : Option String) : Except Fault Locale :=
  match ofParts? language.toList (country.map String.toList) with
  | some l => .ok l
  | none => .error (.invalidLocale (joined language country))

def parse (tag : String) : Except Fault Locale :=
  match parse? tag with
  | some l => .ok l
  | none => .error (.invalidLocale tag)

def hasDottedCapital (l : Locale) : Bool := l.language == "tr" || l.language == "az"

/-! ## Order -/

/-- Languages first, then countries, no country before any. -/
protected def compare (a b : Locale) : Ordering :=
  (Ord.compare a.language b.language).then (Ord.compare a.country b.country)

instance : Ord Locale := ⟨Locale.compare⟩

def sort (locales : List Locale) : List Locale :=
  locales.mergeSort fun a b => (Locale.compare a b).isLE

end Locale

end ScreenKeyboard
