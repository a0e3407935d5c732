import ScreenKeyboard.Definition.Format
import ScreenKeyboard.Proofs.ReadBack
import ScreenKeyboard.Proofs.WrittenTree
/-!
# Written definitions

A definition is read back from its text as it was (`Definition.ofText_compact`), whatever it leaves open and in whichever
way its keys are written.
-/
namespace ScreenKeyboard

open Json.Node

/-! ## Locales -/

theorem isBlank_of_isAlpha {c : Char} (h : c.isAlpha = true) : Text.isBlank c = false := by
  simp only [isAlpha_iff, isUpper_iff_toNat, isLower_iff_toNat] at h
  simp only [Text.isBlank, Bool.or_eq_false_iff, Bool.and_eq_false_iff, decide_eq_false_iff_not, beq_eq_false_iff_ne]
  omega

theorem toLower_of_not_isUpper {c : Char} (h : ¬ c.isUpper = true) : c.toLower = c := by
  refine dif_neg fun upper => h ?_
  simp only [ge_iff_le, UInt32.le_iff_toNat_le] at upper
  simpa [isUpper_iff_toNat] using upper

theorem toLower_of_isLower {c : Char} (h : c.isLower = true) : c.toLower = c := by
  refine toLower_of_not_isUpper fun upper => ?_
  rw [isLower_iff_toNat] at h
  rw [isUpper_iff_toNat] at upper
  omega

theorem toUpper_of_isUpper {c : Char} (h : c.isUpper = true) : c.toUpper = c := by
  rw [isUpper_iff_toNat] at h
  refine dif_neg fun lower => ?_
  simp only [UInt32.le_iff_toNat_le] at lower
  have := lower.1
  simp at this
  omega

namespace Locale

theorem isSeparator_of_isAlpha {c : Char} (h : c.isAlpha = true) : isSeparator c = false := by
  simp only [isSeparator, Bool.or_eq_false_iff, beq_eq_false_iff_ne]
  constructor <;> rintro rfl <;> exact absurd h (by decide)

theorem isAlpha_of_isSubtag {part : List Char} (h : isSubtag part = true) : ∀ c ∈ part, c.isAlpha = true := by
  rw [isSubtag, Bool.and_eq_true] at h
  exact List.all_eq_true.1 h.2

theorem ne_nil_of_isSubtag {part : List Char} (h : isSubtag part = true) : part ≠ [] := by
  rintro rfl
  exact absurd h (by decide)

/-- The parts of a locale in normal form are the parts of its tag. -/
theorem ofParts?_toList (l : Locale) : ofParts? l.language.toList (l.country.map String.toList) = some l := by
  obtain ⟨language, country, language_normal, country_normal⟩ := l
  have small : String.ofList (language.toList.map Char.toLower) = language := by
    rw [List.map_congr_left fun c hc => toLower_of_isLower (List.all_eq_true.1 language_normal.2 c hc), List.map_id',
      String.ofList_toList]
  rw [ofParts?, dif_pos language_normal.1]
  cases country with
  | none => simp only [Option.map_none, small]
  | some country =>
    obtain ⟨subtag, capitals⟩ := country_normal country rfl
    have large : String.ofList (country.toList.map Char.toUpper) = country := by
      rw [List.map_congr_left fun c hc => toUpper_of_isUpper (List.all_eq_true.1 capitals c hc), List.map_id',
        String.ofList_toList]
    simp only [Option.map_some, subtag, dif_pos, small, large]

theorem ofTag?_language {language : List Char} (h : ∀ c ∈ language, c.isAlpha = true) :
    ofTag? language = ofParts? language none := by
  have whole : ∀ c ∈ language, (!isSeparator c) = true := fun c hc => by rw [isSeparator_of_isAlpha (h c hc)]; rfl
  rw [ofTag?, ← List.append_nil language, List.takeWhile_append_of_pos whole, List.dropWhile_append_of_pos whole]
  simp

theorem ofTag?_country {language : List Char} (h : ∀ c ∈ language, c.isAlpha = true) {separator : Char}
    (between : isSeparator separator = true) (country : List Char) :
    ofTag? (language ++ separator :: country) = ofParts? language (some country) := by
  have whole : ∀ c ∈ language, (!isSeparator c) = true := fun c hc => by rw [isSeparator_of_isAlpha (h c hc)]; rfl
  rw [ofTag?, List.takeWhile_append_of_pos whole, List.dropWhile_append_of_pos whole,
    List.takeWhile_cons_of_neg (by simp [between]), List.dropWhile_cons_of_neg (by simp [between]), List.append_nil]

theorem isBlank_head_of_isSubtag {part : List Char} (h : isSubtag part = true) (rest : List Char) :
    ∀ c ∈ (part ++ rest).head?, Text.isBlank c = false := by
  intro c hc
  rw [List.head?_append, List.head?_eq_some_head (ne_nil_of_isSubtag h), Option.some_or] at hc
  obtain rfl := Option.some.inj hc
  exact isBlank_of_isAlpha (isAlpha_of_isSubtag h _ (List.head_mem _))

theorem isBlank_getLast_of_isSubtag {part : List Char} (h : isSubtag part = true) (front : List Char) :
    ∀ c ∈ (front ++ part).getLast?, Text.isBlank c = false := by
  intro c hc
  rw [List.getLast?_append, List.getLast?_eq_some_getLast (ne_nil_of_isSubtag h), Option.some_or] at hc
  obtain rfl := Option.some.inj hc
  exact isBlank_of_isAlpha (isAlpha_of_isSubtag h _ (List.getLast_mem _))

/-- **A locale is read back from its tag.** -/
theorem parse?_tag (l : Locale) : parse? l.tag = some l := by
  have subtag := l.language_normal.1
  have letters := isAlpha_of_isSubtag subtag
  have parts := l.ofParts?_toList
  cases named : l.country with
  | none =>
    have chars : l.tag.toList = l.language.toList := by rw [tag, named, joined]
    have first := isBlank_head_of_isSubtag subtag []
    rw [List.append_nil] at first
    rw [named] at parts
    rw [parse?, chars, Text.trimChars_of_ends first (isBlank_getLast_of_isSubtag subtag []), ofTag?_language letters]
    exact parts
  | some country =>
    have chars : l.tag.toList = l.language.toList ++ ['_'] ++ country.toList := by
      rw [tag, named, joined, String.toList_append, String.toList_append]
      rfl
    have last := isBlank_getLast_of_isSubtag (l.country_normal country named).1 (l.language.toList ++ ['_'])
    have first := isBlank_head_of_isSubtag subtag (['_'] ++ country.toList)
    rw [← List.append_assoc] at first
    rw [named] at parts
    rw [parse?, chars, Text.trimChars_of_ends first last, List.append_assoc, List.singleton_append,
      ofTag?_country letters rfl]
    exact parts

theorem faithful {room : Nat} : Faithful room ofNode (fun l => .text (tag l)) where
  notNull := nofun
  nests _ := .text _
  reads l := by
    rw [ofNode, ofJson, asText]
    simp only [bind, Except.bind, l.parse?_tag]
    rfl

end Locale

/-! ## Keys -/

theorem faithful_texts {room : Nat} : Faithful (room + 1) (asList asText) textsToJson := faithful_text.list

namespace KeySpec

/-- A key is read back in the way in which it was written. -/
theorem faithful {room : Nat} : Faithful (room + 2) ofNode toJson where
  notNull key := by cases key <;> nofun
  nests key := by
    cases key with
    | plain label => exact .text label
    | offering label more =>
      refine .object fun m hm => ?_
      simp only [List.mem_cons, List.not_mem_nil, or_false] at hm
      rcases hm with rfl | rfl
      · exact .text label
      · exact faithful_texts.nests more
  reads key := by
    rw [ofNode, fault?_ofJson]
    cases key with
    | plain label => rfl
    | offering label more =>
      have offer : asList asText (ofJson (textsToJson more)) = .ok more := (@faithful_texts 0).reads more
      have sound : ofSound? (ofJson (toJson (.offering label more))) = some (.offering label more) := by
        simp [toJson, ofJson, Json.Node.ofMembers, ofSound?, ofMembers?, asText, offer, Except.toOption]
      rw [sound]

end KeySpec

theorem faithful_rows {room : Nat} : Faithful (room + 4) rowsOfNode rowsToJson := KeySpec.faithful.list.list

/-! ## Policies -/

namespace Policy

theorem exists_fills {room : Nat} (p : Policy) :
    ∃ members, p.toJson = .ofMembers members ∧ Fills (room + 2) shape set shape.fields unset members p := by
  have free : ∀ field, field ∉ shape.required := fun _ => List.not_mem_nil
  have quotes : Faithful (room + 2) (asChoice QuoteOrder.named) (fun o => .text o.name) :=
    faithful_choice QuoteOrder.lookup_name
  have angles : Faithful (room + 2) (asChoice AngleOrder.named) (fun o => .text o.name) :=
    faithful_choice AngleOrder.lookup_name
  have currencies : Faithful (room + 2) (asChoice Currency.named) (fun c => .text c.name) :=
    faithful_choice Currency.lookup_name
  refine ⟨_, rfl, ?_⟩
  refine .optional (fun p v => { p with currency := v }) (free _) currencies (fun _ => rfl) rfl _ ?_
  refine .optional (fun p v => { p with doubleQuotes := v }) (free _) quotes (fun _ => rfl) rfl _ ?_
  refine .optional (fun p v => { p with singleQuotes := v }) (free _) quotes (fun _ => rfl) rfl _ ?_
  refine .optional (fun p v => { p with doubleAngles := v }) (free _) angles (fun _ => rfl) rfl _ ?_
  refine .optional (fun p v => { p with singleAngles := v }) (free _) angles (fun _ => rfl) rfl _ ?_
  refine .optional (fun p v => { p with hasShift := v }) (free _) faithful_bool (fun _ => rfl) rfl _ ?_
  refine .optional (fun p v => { p with accents := v }) (free _) faithful_texts.map (fun _ => rfl) rfl _ ?_
  refine .optional (fun p v => { p with extraPunctuation := v }) (free _) faithful_texts (fun _ => rfl) rfl _ ?_
  exact .done p

/-- **A policy is read back.** -/
theorem faithful {room : Nat} : Faithful (room + 3) ofNode toJson :=
  faithful_record (by decide) nofun exists_fills

end Policy

/-! ## Definitions -/

namespace Definition

theorem exists_fills {room : Nat} (d : Definition) :
    ∃ members, d.toJson = .ofMembers members ∧ Fills (room + 4) shape set shape.fields unset members d := by
  have rows : ∀ {fields members} {next : Definition},
      Fills (room + 4) shape set fields { next with phoneRows := d.phoneRows } members d → next.phoneRows = [] →
        Fills (room + 4) shape set ("phone_rows" :: fields) next
          ((if d.phoneRows = [] then none else some ("phone_rows", rowsToJson d.phoneRows)) :: members) d := by
    intro fields members next rest opened
    split
    · rename_i empty
      rw [empty, ← opened] at rest
      exact .skip (by decide) rest
    · exact .always (fun d v => { d with phoneRows := v }) faithful_rows (fun _ => rfl) _ rest
  refine ⟨_, rfl, ?_⟩
  refine .always (fun d v => { d with name := v }) faithful_text (fun _ => rfl) _ ?_
  refine .optional (fun d v => { d with locale := v }) (by decide) Locale.faithful (fun _ => rfl) rfl _ ?_
  refine .optional (fun d v => { d with parent := v }) (by decide) faithful_text (fun _ => rfl) rfl _ ?_
  refine rows ?_ rfl
  refine .optional (fun d v => { d with tabletRows := v }) (by decide) faithful_rows (fun _ => rfl) rfl _ ?_
  refine .optional (fun d v => { d with caseless := v }) (by decide) faithful_bool (fun _ => rfl) rfl _ ?_
  refine .always (fun d v => { d with policy := v }) Policy.faithful (fun _ => rfl) _ ?_
  exact .done d

/-- **A definition is read back.** -/
theorem faithful {room : Nat} : Faithful (room + 5) ofNode toJson :=
  faithful_record (by decide) (by decide) exists_fills

/-- **A definition is read back from its text.** -/
theorem ofText_compact (d : Definition) : ofText d.toJson.compact = .ok d := by
  have read := Json.decodeText_compact ofNode ((@faithful 122).nests d)
  rw [ofText, read, (@faithful 0).reads d]
  rfl

end Definition

end ScreenKeyboard
