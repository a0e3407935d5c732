import ScreenKeyboard.Proofs.ByteOrder
import ScreenKeyboard.Proofs.LocaleTags
import ScreenKeyboard.Proofs.Registered
/-!
# The order of tags

Locales are in the order of the bytes of their tags (`Locale.compare_eq_compare_bytes`).  A language may be the beginning
of another one, and then its tag ends or goes on with the bar, which is smaller than any letter that the other language
goes on with.  So languages are compared first in tags as well (`Locale.compare_append`), and countries after them.  With
that a locale is as good as its tag: to tell locales apart, to look for one in the registry and to sort them
(`Locale.in_order_of_tags`).
-/
namespace ScreenKeyboard

namespace Locale

/-- **Whether a locale comes before another one**: by the language, and in one language by the country, where none comes
before any. -/
inductive Before (a b : Locale) : Prop
  | language (less : Text.bytes a.language < Text.bytes b.language)
  | bare (same : a.language = b.language) (without : a.country = none) (within : b.country.isSome = true)
  | country {country country' : String} (same : a.language = b.language) (own : a.country = some country)
    (other : b.country = some country') (less : Text.bytes country < Text.bytes country')

theorem compare_eq_lt_iff (a b : Locale) : Locale.compare a b = .lt ↔ a.Before b := by
  have languages := Text.compare_eq_lt_iff a.language b.language
  have same : Ord.compare a.language b.language = .eq ↔ a.language = b.language := Std.LawfulEqCmp.compare_eq_iff_eq
  rw [Locale.compare, Ordering.then_eq_lt, languages, same]
  constructor
  · rintro (less | ⟨same, less⟩)
    · exact .language less
    · rcases own : a.country with _ | country <;> rcases other : b.country with _ | country' <;>
        rw [own, other] at less
      · nomatch less
      · exact .bare same own (by rw [other]; rfl)
      · nomatch less
      · exact .country same own other ((Text.compare_eq_lt_iff _ _).1 less)
  · rintro (less | ⟨same, without, within⟩ | ⟨same, own, other, less⟩)
    · exact .inl less
    · obtain ⟨country, other⟩ := Option.isSome_iff_exists.1 within
      rw [without, other]
      exact .inr ⟨same, rfl⟩
    · rw [own, other]
      exact .inr ⟨same, (Text.compare_eq_lt_iff _ _).2 less⟩

/-! ## Bytes of a tag -/

def bar : UInt8 := UInt8.ofNat '_'.toNat

def countryBytes : Option String → List UInt8
  | none => []
  | some country => bar :: Text.bytes country

theorem bytes_tag (l : Locale) : Text.bytes l.tag = Text.bytes l.language ++ countryBytes l.country := by
  have between : Text.bytes "_" = [bar] := rfl
  unfold tag
  cases l.country with
  | none => exact (List.append_nil _).symm
  | some country =>
    rw [joined, Text.bytes_append, Text.bytes_append, between, List.append_assoc]
    rfl

theorem bar_lt_of_mem_bytes_language (l : Locale) : ∀ n ∈ Text.bytes l.language, bar < n := by
  intro n there
  rw [Text.bytes_eq_flatMap] at there
  obtain ⟨c, letter, own⟩ := List.mem_flatMap.1 there
  have small := (isLower_iff_toNat c).1 (List.all_eq_true.1 l.language_normal.2 c letter)
  rw [Text.utf8EncodeChar_of_le (by omega)] at own
  obtain rfl := List.mem_singleton.1 own
  have low : '_'.toNat = 95 := rfl
  exact Text.ofNat_lt_ofNat (by omega) (by omega)

theorem compare_countryBytes_cons {n : UInt8} (above : bar < n) (rest : List UInt8) : ∀ country : Option String,
    Ord.compare (countryBytes country) (n :: rest) = .lt
  | none => rfl
  | some country => by
    have less : Ord.compare bar n = .lt := compareOfLessAndEq_eq_lt.2 above
    rw [countryBytes, List.compare_cons_cons, less, Ordering.lt_then]

/-- Of two texts that are greater than the bar throughout, the one that ends first is smaller whatever comes after it. -/
theorem compare_append (c d : Option String) : ∀ {x y : List UInt8}, (∀ n ∈ x, bar < n) → (∀ n ∈ y, bar < n) →
    Ord.compare (x ++ countryBytes c) (y ++ countryBytes d) =
      (Ord.compare x y).then (Ord.compare (countryBytes c) (countryBytes d))
  | [], [], _, _ => rfl
  | [], n :: y, _, above => compare_countryBytes_cons (above n List.mem_cons_self) _ c
  | n :: x, [], above, _ =>
    Std.OrientedCmp.gt_iff_lt.2 (compare_countryBytes_cons (above n List.mem_cons_self) _ d)
  | n :: x, m :: y, above, above' => by
    have rest := compare_append c d (fun k hk => above k (List.mem_cons_of_mem n hk))
      (fun k hk => above' k (List.mem_cons_of_mem m hk))
    rw [List.cons_append, List.cons_append, List.compare_cons_cons, List.compare_cons_cons, rest, Ordering.then_assoc]

theorem compare_countryBytes : ∀ c d : Option String, Ord.compare (countryBytes c) (countryBytes d) = Ord.compare c d
  | none, none => rfl
  | none, some _ => rfl
  | some _, none => rfl
  | some c, some d => by
    rw [countryBytes, countryBytes, List.compare_cons_cons, Std.ReflOrd.compare_self, Ordering.eq_then,
      Text.compare_bytes]
    rfl

/-- **Locales compare as the bytes of their tags do.** -/
theorem compare_eq_compare_bytes (a b : Locale) :
    Locale.compare a b = Ord.compare (Text.bytes a.tag) (Text.bytes b.tag) := by
  rw [bytes_tag, bytes_tag,
    compare_append _ _ a.bar_lt_of_mem_bytes_language b.bar_lt_of_mem_bytes_language, compare_countryBytes,
    Text.compare_bytes]
  rfl

theorem compare_eq_eq_iff (a b : Locale) : Locale.compare a b = .eq ↔ a = b := by
  rw [compare_eq_compare_bytes, Text.compare_bytes, Std.LawfulEqCmp.compare_eq_iff_eq]
  exact ⟨eq_of_tag_eq, congrArg tag⟩

theorem compare_eq_gt_iff (a b : Locale) : Locale.compare a b = .gt ↔ b.Before a := by
  rw [← compare_eq_lt_iff, compare_eq_compare_bytes, compare_eq_compare_bytes, Std.OrientedCmp.gt_iff_lt]

theorem isLE_compare (a b : Locale) : (Locale.compare a b).isLE = true ↔ Text.bytes a.tag ≤ Text.bytes b.tag := by
  rw [compare_eq_compare_bytes, Text.isLE_compare_bytes]

/-! ## Sorting -/

theorem pairwise_sort (locales : List Locale) :
    (sort locales).Pairwise fun a b => Text.bytes a.tag ≤ Text.bytes b.tag := by
  have trans : ∀ a b c : Locale, (Locale.compare a b).isLE = true → (Locale.compare b c).isLE = true →
      (Locale.compare a c).isLE = true := by
    intro a b c
    simp only [isLE_compare]
    exact List.le_trans
  have total : ∀ a b : Locale, ((Locale.compare a b).isLE || (Locale.compare b a).isLE) = true := by
    intro a b
    simp only [Bool.or_eq_true, isLE_compare]
    exact List.le_total _ _
  exact (List.pairwise_mergeSort trans total locales).imp (isLE_compare _ _).1

/-- **Sorting locales is sorting their tags.** -/
theorem map_tag_sort_eq_iff (locales : List Locale) (tags : List String) : (sort locales).map tag = tags ↔
    tags.Perm (locales.map tag) ∧ tags.Pairwise fun s t => Text.bytes s ≤ Text.bytes t := by
  have held : ((sort locales).map tag).Perm (locales.map tag) := (List.mergeSort_perm _ _).map tag
  have sorted : ((sort locales).map tag).Pairwise fun s t => Text.bytes s ≤ Text.bytes t :=
    List.pairwise_map.2 (pairwise_sort locales)
  constructor
  · rintro rfl
    exact ⟨held, sorted⟩
  · rintro ⟨held', sorted'⟩
    refine List.Perm.eq_of_pairwise (fun s t _ _ before after => ?_) sorted sorted' (held.trans held'.symm)
    exact String.le_antisymm ((Text.bytes_le_bytes_iff s t).1 before) ((Text.bytes_le_bytes_iff t s).1 after)

end Locale

/-! ## Looking up -/

namespace Registry

theorem exists_tag_eq {tag : String} (listed : tag ∈ tags) : ∃ l : Locale, l.tag = tag := by
  have all : ∀ tag ∈ tags, (Locale.parse? tag).map Locale.tag = some tag := by decide +kernel
  obtain ⟨l, -, same⟩ := Option.map_eq_some_iff.1 (all tag listed)
  exact ⟨l, same⟩

/-- **What is found for a locale is the entry whose tag stands for it.** -/
theorem find_eq_ok_iff_parse {l : Locale} {entry : Registration} :
    find l = .ok entry ↔ entry ∈ entries ∧ Locale.parse entry.tag = .ok l := by
  rw [find_eq_ok_iff]
  constructor
  · rintro ⟨listed, rfl⟩
    exact ⟨List.mem_map_of_mem listed, Locale.parse_eq_ok_iff_parse?.2 l.parse?_tag⟩
  · rintro ⟨there, read⟩
    obtain ⟨tag, listed, rfl⟩ := List.mem_map.1 there
    obtain ⟨m, rfl⟩ := exists_tag_eq listed
    have read : Locale.parse? m.tag = some l := Locale.parse_eq_ok_iff_parse?.1 read
    rw [m.parse?_tag] at read
    obtain rfl := Option.some.inj read
    exact ⟨listed, rfl⟩

theorem find_eq_error_iff_parse {l : Locale} {fault : Fault} : find l = .error fault ↔
    fault = unknownFault l.tag ∧ ∀ entry ∈ entries, Locale.parse entry.tag ≠ .ok l := by
  have refused : find l = .error fault ↔ fault = unknownFault l.tag ∧ ∀ entry, find l ≠ .ok entry := by
    unfold find
    split <;> simp [eq_comm]
  rw [refused]
  refine and_congr_right fun _ => forall_congr' fun entry => ?_
  rw [Ne, find_eq_ok_iff_parse, not_and]

end Registry

namespace Locale

/-- **The order of locales is that of the bytes of their tags**: languages first, then no country before any, then
countries.  So different locales have different tags, what the registry has under the tag of a locale is the entry whose
own tag stands for that locale, and nothing if there is none, and when locales are sorted their tags are. -/
theorem in_order_of_tags :
    (∀ a b : Locale, (Locale.compare a b = .lt ↔ a.Before b) ∧ (Locale.compare a b = .eq ↔ a = b) ∧
      (Locale.compare a b = .gt ↔ b.Before a)) ∧
    (∀ a b : Locale, Locale.compare a b = Ord.compare (Text.bytes a.tag) (Text.bytes b.tag)) ∧
    (∀ a b : Locale, a.tag = b.tag ↔ a = b) ∧
    (∀ l entry, Registry.find l = .ok entry ↔ entry ∈ Registry.entries ∧ parse entry.tag = .ok l) ∧
    (∀ l fault, Registry.find l = .error fault ↔
      fault = Registry.unknownFault l.tag ∧ ∀ entry ∈ Registry.entries, parse entry.tag ≠ .ok l) ∧
    ∀ locales tags, (sort locales).map tag = tags ↔
      tags.Perm (locales.map tag) ∧ tags.Pairwise fun s t => Text.bytes s ≤ Text.bytes t :=
  ⟨fun a b => ⟨compare_eq_lt_iff a b, compare_eq_eq_iff a b, compare_eq_gt_iff a b⟩, compare_eq_compare_bytes,
    fun _ _ => ⟨eq_of_tag_eq, congrArg tag⟩, fun _ _ => Registry.find_eq_ok_iff_parse,
    fun _ _ => Registry.find_eq_error_iff_parse, map_tag_sort_eq_iff⟩

/-- A language with a country and without, and another one that begins with it. -/
theorem in_order_of_tags_of_french : ∃ fr frFR fra : Locale,
    parse "fr" = .ok fr ∧ parse "fr-fr" = .ok frFR ∧ parse "FRA" = .ok fra ∧
      fr.Before frFR ∧ frFR.Before fra ∧ Ord.compare (Text.bytes frFR.tag) (Text.bytes fra.tag) = .lt ∧
      Registry.find frFR = .ok (.standard "fr_FR") ∧ Registry.find fra = .error (Registry.unknownFault "fra") ∧
      (sort [fra, frFR, fr, frFR]).map tag = ["fr", "fr_FR", "fr_FR", "fra"] := by
  obtain ⟨order, bytes, -, found, refused, sorted⟩ := in_order_of_tags
  refine ⟨⟨"fr", none, by decide, nofun⟩, ⟨"fr", some "FR", by decide, by decide⟩, ⟨"fra", none, by decide, nofun⟩,
    rfl, rfl, rfl, .bare rfl rfl rfl, (order _ _).1.1 (by decide), ?_, (found _ _).2 ⟨?_, rfl⟩,
    (refused _ _).2 ⟨rfl, fun entry there read => ?_⟩, (sorted _ _).2 ⟨by decide +kernel, by decide +kernel⟩⟩
  · rw [← bytes]
    decide
  · exact List.mem_map_of_mem (by decide)
  · have listed := (Registry.find_eq_ok_iff.1 ((found _ _).2 ⟨there, read⟩)).1
    exact absurd listed (by decide)

end Locale

end ScreenKeyboard
