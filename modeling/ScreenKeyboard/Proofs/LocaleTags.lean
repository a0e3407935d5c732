import ScreenKeyboard.Proofs.WrittenDefinition
/-!
# Tags of locales

A tag is one part or two parts with a separator between them (`Locale.Tagged`), each of two or three letters.  Exactly
the texts that are a tag when the blanks around them are gone are read, and the locale has the parts in normal form
(`Locale.parse_eq_ok_iff`); all others are refused as they were given.  To read a tag its case and its separator do not
matter and nothing else is passed over (`Locale.eq_iff_folded_eq`).  Whatever makes a locale, it is the one that its tag
stands for (`Locale.tags_by_grammar`).
-/
namespace ScreenKeyboard.Locale

variable {tag tag' language : List Char} {country : Option (List Char)} {l m : Locale}

/-! ## Grammar -/

/-- A part of a tag: two or three letters, small or capital. -/
def Subtag (part : List Char) : Prop :=
  (part.length = 2 ∨ part.length = 3) ∧ ∀ c ∈ part, 'a' ≤ c ∧ c ≤ 'z' ∨ 'A' ≤ c ∧ c ≤ 'Z'

/-- **A tag without blanks around it**, with its parts. -/
inductive Tagged : List Char → List Char → Option (List Char) → Prop
  | language {language : List Char} (letters : Subtag language) : Tagged language language none
  | country {language country : List Char} {separator : Char} (letters : Subtag language)
    (between : separator = '_' ∨ separator = '-') (letters' : Subtag country) :
    Tagged (language ++ separator :: country) language (some country)

theorem isAlpha_iff_between (c : Char) : c.isAlpha = true ↔ 'a' ≤ c ∧ c ≤ 'z' ∨ 'A' ≤ c ∧ c ≤ 'Z' := by
  rw [isAlpha_iff, isUpper_iff_toNat, isLower_iff_toNat, or_comm]
  simp [Char.le_def, UInt32.le_iff_toNat_le]

theorem isSubtag_iff (part : List Char) : isSubtag part = true ↔ Subtag part := by
  unfold isSubtag Subtag
  simp only [Bool.and_eq_true, Bool.or_eq_true, beq_iff_eq, List.all_eq_true, isAlpha_iff_between]

theorem isSeparator_iff (c : Char) : isSeparator c = true ↔ c = '_' ∨ c = '-' := by
  unfold isSeparator
  simp only [Bool.or_eq_true, beq_iff_eq]

theorem isAlpha_of_subtag {part : List Char} (letters : Subtag part) : ∀ c ∈ part, c.isAlpha = true :=
  isAlpha_of_isSubtag ((isSubtag_iff part).2 letters)

/-! ## Reading -/

theorem ext_parts (same : l.language = m.language) (same' : l.country = m.country) : l = m := by
  cases l
  cases m
  simp only at same same'
  subst same same'
  rfl

theorem ofParts?_eq_some_iff : ofParts? language country = some l ↔
    (Subtag language ∧ ∀ part ∈ country, Subtag part) ∧
      l.language = String.ofList (language.map Char.toLower) ∧
      l.country = country.map fun part => String.ofList (part.map Char.toUpper) := by
  simp only [← isSubtag_iff]
  unfold ofParts?
  split
  · rename_i letters
    split
    · constructor
      · intro made
        obtain rfl := Option.some.inj made
        exact ⟨⟨letters, fun part there => absurd there (Option.not_mem_none part)⟩, rfl, rfl⟩
      · rintro ⟨-, same, same'⟩
        exact congrArg some (ext_parts same.symm same'.symm)
    · rename_i part
      split
      · rename_i letters'
        constructor
        · intro made
          obtain rfl := Option.some.inj made
          exact ⟨⟨letters, fun _ there => Option.some.inj there ▸ letters'⟩, rfl, rfl⟩
        · rintro ⟨-, same, same'⟩
          exact congrArg some (ext_parts same.symm same'.symm)
      · rename_i other
        exact iff_of_false (Option.some_ne_none l).symm fun h => other (h.1.2 part rfl)
  · rename_i other
    exact iff_of_false (Option.some_ne_none l).symm fun h => other h.1.1

theorem exists_ofParts? (parts : Subtag language ∧ ∀ part ∈ country, Subtag part) :
    ∃ l, ofParts? language country = some l := by
  simp only [← isSubtag_iff] at parts
  rw [ofParts?, dif_pos parts.1]
  cases country with
  | none => exact ⟨_, rfl⟩
  | some part => exact ⟨_, dif_pos (parts.2 part rfl)⟩

theorem ofTag?_eq_some_iff : ofTag? tag = some l ↔
    ∃ language country, Tagged tag language country ∧ ofParts? language country = some l := by
  constructor
  · intro read
    have whole := List.takeWhile_append_dropWhile (p := fun c => !isSeparator c) (l := tag)
    unfold ofTag? at read
    obtain ⟨⟨letters, letters'⟩, -⟩ := ofParts?_eq_some_iff.1 read
    refine ⟨_, _, ?_, read⟩
    -- What comes after the first part is nothing, or a separator and the second part.
    cases rest : tag.dropWhile fun c => !isSeparator c with
    | nil =>
      rw [rest, List.append_nil] at whole
      rw [whole] at letters ⊢
      exact .language letters
    | cons separator country =>
      have cut := List.head?_dropWhile_not (fun c => !isSeparator c) tag
      rw [rest] at whole letters' cut
      have between : isSeparator separator = true := by simpa using cut
      have tagged := Tagged.country letters ((isSeparator_iff separator).1 between) (letters' country rfl)
      rwa [whole] at tagged
  · rintro ⟨language, country, tagged, made⟩
    cases tagged with
    | language letters => rwa [ofTag?_language (isAlpha_of_subtag letters)]
    | country letters between letters' =>
      rwa [ofTag?_country (isAlpha_of_subtag letters) ((isSeparator_iff _).2 between)]

theorem subtags_of_tagged (tagged : Tagged tag language country) :
    Subtag language ∧ ∀ part ∈ country, Subtag part := by
  cases tagged with
  | language letters => exact ⟨letters, fun part there => absurd there (Option.not_mem_none part)⟩
  | country letters between letters' => exact ⟨letters, fun _ there => Option.some.inj there ▸ letters'⟩

/-- A tag begins and ends with a letter. -/
theorem trimChars_of_tagged (tagged : Tagged tag language country) : Text.trimChars tag = tag := by
  cases tagged with
  | language letters =>
    have letters := (isSubtag_iff _).2 letters
    have first := isBlank_head_of_isSubtag letters []
    rw [List.append_nil] at first
    exact Text.trimChars_of_ends first (isBlank_getLast_of_isSubtag letters [])
  | country letters between letters' =>
    have first := isBlank_head_of_isSubtag ((isSubtag_iff _).2 letters)
    have last := isBlank_getLast_of_isSubtag ((isSubtag_iff _).2 letters')
    rw [List.append_cons]
    refine Text.trimChars_of_ends ?_ (last _)
    rw [← List.append_cons]
    exact first _

theorem parse_eq_ok_iff_parse? {tag : String} : parse tag = .ok l ↔ parse? tag = some l := by
  unfold parse
  cases parse? tag <;> simp

/-- **What is read, and as which locale.** -/
theorem parse_eq_ok_iff {tag : String} : parse tag = .ok l ↔
    ∃ language country, Tagged (Text.trimChars tag.toList) language country ∧
      l.language = String.ofList (language.map Char.toLower) ∧
      l.country = country.map fun part => String.ofList (part.map Char.toUpper) := by
  rw [parse_eq_ok_iff_parse?, parse?, ofTag?_eq_some_iff]
  constructor
  · rintro ⟨language, country, tagged, made⟩
    exact ⟨language, country, tagged, (ofParts?_eq_some_iff.1 made).2⟩
  · rintro ⟨language, country, tagged, parts⟩
    exact ⟨language, country, tagged, ofParts?_eq_some_iff.2 ⟨subtags_of_tagged tagged, parts⟩⟩

theorem parse?_eq_none_iff {tag : String} : parse? tag = none ↔
    ∀ language country, ¬ Tagged (Text.trimChars tag.toList) language country := by
  rw [parse?, Option.eq_none_iff_forall_ne_some]
  constructor
  · intro unread language country tagged
    obtain ⟨l, made⟩ := exists_ofParts? (subtags_of_tagged tagged)
    exact unread l (ofTag?_eq_some_iff.2 ⟨language, country, tagged, made⟩)
  · intro untagged l read
    obtain ⟨language, country, tagged, -⟩ := ofTag?_eq_some_iff.1 read
    exact untagged language country tagged

/-- **What is refused, and in which words.** -/
theorem parse_eq_error_iff {tag : String} {fault : Fault} : parse tag = .error fault ↔
    fault = .invalidLocale tag ∧
      ∀ language country, ¬ Tagged (Text.trimChars tag.toList) language country := by
  rw [← parse?_eq_none_iff]
  unfold parse
  cases parse? tag with
  | none => simp [eq_comm]
  | some l => simp

theorem ofNode_text (line : Nat) (tag : String) : ofNode (.scalar line (.text tag)) =
    (parse tag).mapError fun fault => ⟨.refused fault.text, none⟩ := by
  rw [ofNode, Json.Node.asText]
  simp only [bind, Except.bind]
  unfold parse
  cases parse? tag <;> rfl

/-! ## Case and separator -/

/-- A character of a tag, whatever its case and whichever separator it is. -/
def folded (c : Char) : Char := if isSeparator c then '_' else c.toLower

theorem toLower_of_not_isAlpha {c : Char} (other : ¬ c.isAlpha = true) : c.toLower = c :=
  toLower_of_not_isUpper fun upper => other ((isAlpha_iff c).2 (.inl upper))

theorem folded_of_isAlpha {c : Char} (letter : c.isAlpha = true) : folded c = c.toLower := by
  rw [folded, isSeparator_of_isAlpha letter]
  rfl

theorem isSeparator_folded (c : Char) : isSeparator (folded c) = isSeparator c := by
  by_cases letter : c.isAlpha = true
  · have small := isSeparator_of_isAlpha ((isAlpha_iff _).2 (.inr (isLower_toLower letter)))
    rw [folded_of_isAlpha letter, isSeparator_of_isAlpha letter, small]
  · rw [folded, toLower_of_not_isAlpha letter]
    split
    · rename_i between
      exact between.symm
    · rfl

theorem isAlpha_folded (c : Char) : (folded c).isAlpha = c.isAlpha := by
  by_cases letter : c.isAlpha = true
  · rw [folded_of_isAlpha letter, letter]
    exact (isAlpha_iff _).2 (.inr (isLower_toLower letter))
  · rw [folded, toLower_of_not_isAlpha letter]
    split
    · simpa using letter
    · rfl

theorem letter_cases {c : Char} (letter : c.isAlpha = true) :
    c.toLower.toUpper = c.toUpper ∧ c.toUpper.toLower = c.toLower := by
  have ascii : c.toNat < 128 := by
    rw [isAlpha_iff, isUpper_iff_toNat, isLower_iff_toNat] at letter
    omega
  have all : ∀ n < 128, (Char.ofNat n).isAlpha = true →
      (Char.ofNat n).toLower.toUpper = (Char.ofNat n).toUpper ∧
        (Char.ofNat n).toUpper.toLower = (Char.ofNat n).toLower := by decide
  have this := all c.toNat ascii
  rw [Char.ofNat_toNat] at this
  exact this letter

theorem folded_toLower {c : Char} (letter : c.isAlpha = true) : folded c.toLower = folded c := by
  have small := isLower_toLower letter
  rw [folded_of_isAlpha letter, folded_of_isAlpha ((isAlpha_iff _).2 (.inr small)), toLower_of_isLower small]

theorem folded_toUpper {c : Char} (letter : c.isAlpha = true) : folded c.toUpper = folded c := by
  rw [folded_of_isAlpha letter, folded_of_isAlpha ((isAlpha_iff _).2 (.inl (isUpper_toUpper letter))),
    (letter_cases letter).2]

theorem subtag_map_folded (part : List Char) : Subtag (part.map folded) ↔ Subtag part := by
  rw [← isSubtag_iff, ← isSubtag_iff, isSubtag, isSubtag, List.length_map, List.all_map]
  simp only [Function.comp_def, isAlpha_folded]

theorem map_toLower_folded {part : List Char} (letters : Subtag part) :
    (part.map folded).map Char.toLower = part.map Char.toLower := by
  rw [List.map_map]
  refine List.map_congr_left fun c there => ?_
  have letter := isAlpha_of_subtag letters c there
  rw [Function.comp_apply, folded_of_isAlpha letter, toLower_of_isLower (isLower_toLower letter)]

theorem map_toUpper_folded {part : List Char} (letters : Subtag part) :
    (part.map folded).map Char.toUpper = part.map Char.toUpper := by
  rw [List.map_map]
  refine List.map_congr_left fun c there => ?_
  have letter := isAlpha_of_subtag letters c there
  rw [Function.comp_apply, folded_of_isAlpha letter, (letter_cases letter).1]

theorem ofParts?_folded (language : List Char) (country : Option (List Char)) :
    ofParts? (language.map folded) (country.map (List.map folded)) = ofParts? language country := by
  have parts : (Subtag (language.map folded) ∧ ∀ part ∈ country.map (List.map folded), Subtag part) ↔
      Subtag language ∧ ∀ part ∈ country, Subtag part := by
    simp [subtag_map_folded]
  refine Option.ext fun l => ?_
  rw [ofParts?_eq_some_iff, ofParts?_eq_some_iff, parts]
  refine and_congr_right fun letters => ?_
  rw [map_toLower_folded letters.1]
  cases country with
  | none => rfl
  | some part =>
    rw [Option.map_some, Option.map_some, map_toUpper_folded (letters.2 part rfl)]
    rfl

/-- Case and separator make no difference to what is read. -/
theorem ofTag?_folded (tag : List Char) : ofTag? (tag.map folded) = ofTag? tag := by
  have cut : (fun c => !isSeparator c) ∘ folded = fun c => !isSeparator c := by
    funext c
    rw [Function.comp_apply, isSeparator_folded]
  rw [ofTag?, List.takeWhile_map, List.dropWhile_map, cut, ofTag?]
  cases tag.dropWhile fun c => !isSeparator c with
  | nil => exact ofParts?_folded _ none
  | cons separator country => exact ofParts?_folded _ (some country)

/-- The tag of the locale that is read differs from what was read in case and separator only. -/
theorem tag_folded (read : ofTag? tag = some l) : l.tag.toList.map folded = tag.map folded := by
  obtain ⟨language, country, tagged, made⟩ := ofTag?_eq_some_iff.1 read
  obtain ⟨-, small, large⟩ := ofParts?_eq_some_iff.1 made
  have same : ∀ {part : List Char}, Subtag part → (part.map Char.toLower).map folded = part.map folded ∧
      (part.map Char.toUpper).map folded = part.map folded := by
    intro part letters
    rw [List.map_map, List.map_map]
    exact ⟨List.map_congr_left fun c there => folded_toLower (isAlpha_of_subtag letters c there),
      List.map_congr_left fun c there => folded_toUpper (isAlpha_of_subtag letters c there)⟩
  cases tagged with
  | language letters =>
    rw [Locale.tag, small, large, Option.map_none, joined, String.toList_ofList, (same letters).1]
  | country letters between letters' =>
    have bar : ∀ separator, separator = '_' ∨ separator = '-' → folded separator = folded '_' := by
      rintro separator (rfl | rfl) <;> rfl
    rw [Locale.tag, small, large, Option.map_some, joined]
    simp only [String.toList_append, String.toList_ofList, List.map_append, List.map_cons, (same letters).1,
      (same letters').2, bar _ between]
    simp

/-- **Two tags are read as one locale exactly if they differ in case and separator only.** -/
theorem eq_iff_folded_eq {tag tag' : String} (read : parse tag = .ok l) (read' : parse tag' = .ok m) :
    l = m ↔ (Text.trimChars tag.toList).map folded = (Text.trimChars tag'.toList).map folded := by
  rw [parse_eq_ok_iff_parse?, parse?] at read read'
  constructor
  · rintro rfl
    rw [← tag_folded read, tag_folded read']
  · intro same
    rw [← ofTag?_folded] at read read'
    rw [same, read'] at read
    exact (Option.some.inj read).symm

/-! ## Parts -/

theorem ofParts_eq_ok_iff {language : String} {country : Option String} : ofParts language country = .ok l ↔
    ofParts? language.toList (country.map String.toList) = some l := by
  unfold ofParts
  cases ofParts? language.toList (country.map String.toList) <;> simp

theorem parse_of_tagged {tag : String} (tagged : Tagged tag.toList language country)
    (made : ofParts? language country = some l) : parse tag = .ok l := by
  rw [parse_eq_ok_iff_parse?, parse?, trimChars_of_tagged tagged, ofTag?_eq_some_iff]
  exact ⟨language, country, tagged, made⟩

theorem parse_language {language : String} (made : ofParts language none = .ok l) : parse language = .ok l := by
  have made := ofParts_eq_ok_iff.1 made
  exact parse_of_tagged (.language (ofParts?_eq_some_iff.1 made).1.1) made

theorem parse_joined {language country separator : String} (between : separator = "_" ∨ separator = "-")
    (made : ofParts language (some country) = .ok l) : parse (language ++ separator ++ country) = .ok l := by
  have made := ofParts_eq_ok_iff.1 made
  obtain ⟨letters, letters'⟩ := (ofParts?_eq_some_iff.1 made).1
  refine parse_of_tagged ?_ made
  rcases between with rfl | rfl
  · have tagged := Tagged.country letters (.inl rfl) (letters' country.toList rfl)
    simpa using tagged
  · have tagged := Tagged.country letters (.inr rfl) (letters' country.toList rfl)
    simpa using tagged

/-- **A locale and its tags determine each other.**  A text is read exactly if it is a tag when the blanks around it are
gone, and its parts are put into normal form; any other is refused as it was given.  A text of a JSON document is read
in the same way.  Every locale is read from its tag, two tags are read as one locale exactly if they differ in case and
separator only, and a locale that is made of parts is read from the parts with either separator. -/
theorem tags_by_grammar :
    (∀ tag l, parse tag = .ok l ↔ ∃ language country, Tagged (Text.trimChars tag.toList) language country ∧
      l.language = String.ofList (language.map Char.toLower) ∧
      l.country = country.map fun part => String.ofList (part.map Char.toUpper)) ∧
    (∀ tag fault, parse tag = .error fault ↔ fault = .invalidLocale tag ∧
      ∀ language country, ¬ Tagged (Text.trimChars tag.toList) language country) ∧
    (∀ line tag, ofNode (.scalar line (.text tag)) =
      (parse tag).mapError fun fault => ⟨.refused fault.text, none⟩) ∧
    (∀ l : Locale, parse l.tag = .ok l) ∧
    (∀ tag tag' l m, parse tag = .ok l → parse tag' = .ok m →
      (l = m ↔ (Text.trimChars tag.toList).map folded = (Text.trimChars tag'.toList).map folded)) ∧
    (∀ language l, ofParts language none = .ok l → parse language = .ok l) ∧
    ∀ language country l, ofParts language (some country) = .ok l →
      parse (language ++ "_" ++ country) = .ok l ∧ parse (language ++ "-" ++ country) = .ok l :=
  ⟨fun _ _ => parse_eq_ok_iff, fun _ _ => parse_eq_error_iff, ofNode_text,
    fun l => parse_eq_ok_iff_parse?.2 l.parse?_tag, fun _ _ _ _ => eq_iff_folded_eq, fun _ _ => parse_language,
    fun _ _ _ made => ⟨parse_joined (.inl rfl) made, parse_joined (.inr rfl) made⟩⟩

/-- Two tags of one locale, one of them with a no-break space before it, its parts, and a tag with a third part. -/
theorem tags_by_grammar_of_portuguese : ∃ l m n,
    parse "\u00a0PT-br\n" = .ok l ∧ parse "pt_BR" = .ok m ∧ l = m ∧ parse l.tag = .ok l ∧
      ofParts "pt" none = .ok n ∧ parse "pt" = .ok n ∧
      ofParts "Pt" (some "bR") = .ok l ∧ parse "Pt_bR" = .ok l ∧ parse "Pt-bR" = .ok l ∧
      parse " pt_BR_x" = .error (.invalidLocale " pt_BR_x") ∧ (∀ x y, ¬ Tagged "pt_BR_x".toList x y) ∧
      ofNode (.scalar 3 (.text " pt_BR_x")) = .error ⟨.refused (Fault.invalidLocale " pt_BR_x").text, none⟩ := by
  obtain ⟨-, refused, json, whole, same, alone, both⟩ := tags_by_grammar
  have read : parse "\u00a0PT-br\n" = .ok ⟨"pt", some "BR", by decide, by decide⟩ := rfl
  have read' : parse "pt_BR" = .ok ⟨"pt", some "BR", by decide, by decide⟩ := rfl
  have bare : ∀ c ∈ (none : Option String), isSubtag c.toList = true ∧ c.toList.all Char.isUpper = true :=
    fun c there => absurd there (Option.not_mem_none c)
  have made : ofParts "pt" none = .ok ⟨"pt", none, by decide, bare⟩ := rfl
  have made' : ofParts "Pt" (some "bR") = .ok ⟨"pt", some "BR", by decide, by decide⟩ := rfl
  have third : parse " pt_BR_x" = .error (.invalidLocale " pt_BR_x") := rfl
  have inside := json 3 " pt_BR_x"
  rw [third] at inside
  exact ⟨_, _, _, read, read', (same _ _ _ _ read read').2 (by decide), whole _, made, alone _ _ made, made',
    (both _ _ _ made').1, (both _ _ _ made').2, third, ((refused _ _).1 third).2, inside⟩

end ScreenKeyboard.Locale
