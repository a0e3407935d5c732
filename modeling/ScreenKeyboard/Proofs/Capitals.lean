import ScreenKeyboard.Proofs.DottedCapital
import ScreenKeyboard.Proofs.ShiftedPage
/-!
# Capitals stay as they are

What is in upper case already is not changed by upper case (`Key.upper_upper`), although the second time a key may be
treated in another way than the first: a code may have become a text.  It comes from the tables.  The stretches of code
points that have a capital and those that are capitals have no code point in common, and neither do the expansions, so
no capital is listed (`Text.upperCodes_of_mem_upperCodes`); and none of them is the letter that hangs on the locale.
Upper case also keeps the tree of what a key offers, and a shifted page is stable above the space bar row, or as a whole
if what is added to the punctuation is (`Key.upper_is_final`).
-/
namespace ScreenKeyboard

/-! ## Code points -/

namespace Text

namespace CaseRun

/-- The stretch of the partners of a run, each of which is paired with itself. -/
def partners (run : CaseRun) : CaseRun := ⟨run.target, run.target + (run.last - run.first), run.stride, run.target⟩

def point (code : Nat) : CaseRun := ⟨code, code, 1, code⟩

/-- Whether two stretches have no code point in common, as one ends before the other begins, or as they take turns. -/
def isApartFrom (a b : CaseRun) : Bool :=
  Nat.blt a.last b.first || Nat.blt b.last a.first
    || ((a.stride == 2 || a.first == a.last) && b.stride == 2 && (a.first + b.first) % 2 == 1)

variable {run a b : CaseRun} {code partner : Nat}

theorem image?_partners (h : run.image? code = some partner) : run.partners.image? partner = some partner := by
  obtain ⟨⟨low, high, turn⟩, rfl⟩ := (run.image?_eq_some_iff code partner).1 h
  have back : run.target + (code - run.first) - run.target = code - run.first := Nat.add_sub_cancel_left _ _
  rw [image?_eq_some_iff]
  unfold partners
  dsimp only
  rw [back]
  exact ⟨⟨by omega, by omega, turn⟩, rfl⟩

theorem image?_point (code : Nat) : (point code).image? code = some code := by
  rw [image?_eq_some_iff]
  unfold point
  dsimp only
  omega

theorem image?_eq_none_of_isApartFrom (apart : a.isApartFrom b = true) (there : a.image? code = some partner) :
    b.image? code = none := by
  obtain ⟨⟨low, high, turn⟩, -⟩ := (a.image?_eq_some_iff code partner).1 there
  refine if_neg fun ⟨low', high', turn'⟩ => ?_
  simp only [isApartFrom, Nat.blt_eq, Bool.or_eq_true, Bool.and_eq_true, beq_iff_eq] at apart
  rcases apart with (before | after) | ⟨⟨turns | single, turns'⟩, odd⟩
  · omega
  · omega
  · rw [turns] at turn
    rw [turns'] at turn'
    omega
  · rw [turns'] at turn'
    omega

end CaseRun

theorem upperRuns_apart : (upperRuns.all fun run => upperRuns.all run.partners.isApartFrom) = true := by
  decide +kernel

theorem upperRuns_apart_from_expansions :
    (upperRuns.all fun run => upperExpansions.all fun entry => run.partners.isApartFrom (.point entry.1)) = true := by
  decide +kernel

theorem upperCodes_of_unlisted {code : Nat} (unexpanded : ∀ entry ∈ upperExpansions, entry.1 ≠ code)
    (alone : ∀ run ∈ upperRuns, run.image? code = none) : upperCodes code = [code] := by
  have first : upperExpansions.lookup code = none :=
    List.lookup_eq_none_iff.2 fun entry listed => bne_iff_ne.2 (unexpanded entry listed).symm
  have second : upperRuns.findSome? (·.image? code) = none := List.findSome?_eq_none_iff.2 alone
  rw [upperCodes, first, CaseRun.lookup, second, Option.getD_none]

theorem upperCodes_of_partner {run : CaseRun} (listed : run ∈ upperRuns) {code partner : Nat}
    (h : run.image? code = some partner) : upperCodes partner = [partner] := by
  have there := CaseRun.image?_partners h
  refine upperCodes_of_unlisted (fun entry expanded same => ?_) fun other listed' => ?_
  · have apart := List.all_eq_true.1 (List.all_eq_true.1 upperRuns_apart_from_expansions run listed) entry expanded
    have met := CaseRun.image?_point partner
    rw [← same] at there met
    rw [CaseRun.image?_eq_none_of_isApartFrom apart there] at met
    cases met
  · exact CaseRun.image?_eq_none_of_isApartFrom
      (List.all_eq_true.1 (List.all_eq_true.1 upperRuns_apart run listed) other listed') there

/-- **No code point of an upper case has another upper case.** -/
theorem upperCodes_of_mem_upperCodes {code capital : Nat} (h : capital ∈ upperCodes code) :
    upperCodes capital = [capital] := by
  have expanded : ∀ entry ∈ upperExpansions, ∀ capital ∈ entry.2, upperCodes capital = [capital] := by decide +kernel
  cases first : upperExpansions.lookup code with
  | some codes =>
    rw [upperCodes, first] at h
    exact expanded (code, codes) (mem_of_lookup_eq_some first) capital h
  | none =>
    rw [upperCodes, first, CaseRun.lookup, List.mem_singleton] at h
    cases second : upperRuns.findSome? (·.image? code) with
    | some partner =>
      obtain ⟨run, listed, paired⟩ := List.exists_of_findSome?_eq_some second
      rw [h, second, Option.getD_some]
      exact upperCodes_of_partner listed paired
    | none =>
      rw [h, second, Option.getD_none, upperCodes, first, CaseRun.lookup, second, Option.getD_none]

/-! ## Characters and texts -/

theorem upperChars_of_mem_upperChars {c capital : Char} (h : capital ∈ upperChars c) :
    upperChars capital = [capital] := by
  obtain ⟨code, listed, rfl⟩ := List.mem_map.1 h
  by_cases valid : code.isValidChar
  · have same : (Char.ofNat code).toNat = code := by
      rw [Char.ofNat, dif_pos valid]
      rfl
    rw [upperChars, same, upperCodes_of_mem_upperCodes listed, List.map_singleton]
  · have null : Char.ofNat code = Char.ofNat 0 := by
      rw [Char.ofNat, dif_neg valid]
      rfl
    rw [null]
    exact upperChars_of_lt_space (by decide)

end Text

namespace Locale

theorem upperChars_of_mem_upperChars (l : Locale) {c capital : Char} (h : capital ∈ l.upperChars c) :
    l.upperChars capital = [capital] := by
  have fixed : Text.upperChars capital = [capital] := by
    unfold upperChars at h
    split at h
    · rw [List.mem_singleton.1 h]
      decide +kernel
    · exact Text.upperChars_of_mem_upperChars h
  refine l.upperChars_of_fixed ?_ fixed
  rintro rfl
  exact absurd fixed (by decide +kernel)

theorem upperText_upperText (l : Locale) (text : String) : l.upperText (l.upperText text) = l.upperText text := by
  refine l.upperText_of_fixed fun capital there => ?_
  rw [upperText, String.toList_ofList] at there
  obtain ⟨c, -, h⟩ := List.mem_flatMap.1 there
  exact l.upperChars_of_mem_upperChars h

end Locale

/-! ## Keys -/

theorem Visual.upper_upper (l : Locale) : ∀ visual : Visual, (visual.upper l).upper l = visual.upper l
  | .label text => congrArg Visual.label (l.upperText_upperText text)
  | .icon _ => rfl

/-- A code becomes the code or the text of a capital, or it stays as it is. -/
theorem Code.upper_upper (l : Locale) (code : Code) : (code.upper l).upper l = code.upper l := by
  cases known : code.char? with
  | some c =>
    have single : String.ofList (l.upperChars c) = l.upperText (String.singleton c) := by
      rw [Locale.upperText, String.toList_singleton, List.flatMap_singleton]
    rw [eq_ofChar_of_char? known, Code.upper_ofChar, Output.upper_ofLabel, single, l.upperText_upperText]
  | none =>
    have same : code.upper l = .code code := by
      unfold upper
      rw [known]
      exact ite_self _
    rw [same]
    exact same

theorem Output.upper_upper (l : Locale) : ∀ output : Output, (output.upper l).upper l = output.upper l
  | .code c => c.upper_upper l
  | .text t => congrArg Output.text (l.upperText_upperText t)

/-- **How many keys are offered, and how many by each of them**, at every depth. -/
inductive Nesting where
  | offering (more : List Nesting)

namespace Key

mutual

def nesting : Key → Nesting
  | ⟨_, _, more⟩ => .offering (nestingList more)

def nestingList : List Key → List Nesting
  | [] => []
  | key :: keys => nesting key :: nestingList keys

end

mutual

theorem nesting_upper (l : Locale) : ∀ key : Key, (key.upper l).nesting = key.nesting
  | ⟨visual, output, more⟩ => by rw [upper, nesting, nesting, nestingList_upperList l more]

theorem nestingList_upperList (l : Locale) : ∀ keys : List Key, nestingList (upperList l keys) = nestingList keys
  | [] => rfl
  | key :: keys => by rw [upperList, nestingList, nestingList, nesting_upper l key, nestingList_upperList l keys]

end

mutual

/-- **A key in upper case is not changed by upper case.** -/
theorem upper_upper (l : Locale) : ∀ key : Key, (key.upper l).upper l = key.upper l
  | ⟨visual, output, more⟩ => by
    rw [upper, upper, visual.upper_upper, output.upper_upper, upperList_upperList l more]

theorem upperList_upperList (l : Locale) : ∀ keys : List Key, upperList l (upperList l keys) = upperList l keys
  | [] => rfl
  | key :: keys => by rw [upperList, upperList, upper_upper l key, upperList_upperList l keys]

end

end Key

/-! ## Pages -/

theorem Page.upper_upper (page : Page) (l : Locale) : (page.upper l).upper l = page.upper l := by
  unfold upper
  rw [mapKeys_mapKeys]
  exact congrArg page.mapKeys (funext (Key.upper_upper l))

theorem Page.rowOr_upper (page : Page) (l : Locale) (n : RowNumber) :
    (page.upper l).rowOr n = (page.rowOr n).map (Key.upper l) := page.rowOr_mapKeys _ n

theorem Page.upper_eq_iff (page : Page) (l : Locale) :
    page.upper l = page ↔ ∀ n, (page.rowOr n).map (Key.upper l) = page.rowOr n := by
  constructor
  · intro same n
    rw [← page.rowOr_upper l n, same]
  · intro rows
    refine congrArg Page.mk (map_eq_self fun row there => ?_)
    obtain ⟨i, found⟩ := List.getElem?_of_mem there
    have same := rows ⟨i + 1, i.succ_pos⟩
    have numbered : page.rowOr ⟨i + 1, i.succ_pos⟩ = row := by
      show page.rows.getD i [] = row
      rw [List.getD_eq_getElem?_getD, found, Option.getD_some]
    rwa [numbered] at same

/-- The full stop has only marks of its own to offer, so upper case can change no more than what is added to them. -/
theorem Customizer.map_upper_punctuation_iff (c : Customizer) (l : Locale) (form : FormFactor) :
    (c.punctuation form).map (Key.upper l) = c.punctuation form ↔
      c.extraPunctuation.map (Key.upper l) = c.extraPunctuation := by
  have phone : Key.phonePunctuation.map (Key.upper l) = Key.phonePunctuation :=
    map_eq_self fun key hk => Key.upper_of_mem_fixed l key (by simp [hk])
  have tablet : Key.tabletPunctuation.map (Key.upper l) = Key.tabletPunctuation :=
    map_eq_self fun key hk => Key.upper_of_mem_fixed l key (by simp [hk])
  cases form with
  | phone => rw [punctuation, List.map_append, phone, List.append_cancel_left_eq]
  | tablet => rw [punctuation, List.map_append, tablet, List.append_cancel_left_eq]

namespace Keyboard

variable {name : String} {c : Customizer} {grid : Grid} {first second : SymbolMaker} {k : Keyboard} {form : FormFactor}

theorem upper_of_shiftedLetters? {element : Element} {letters : Page}
    (h : k.shiftedLetters? form element = some letters) : letters.upper k.customizer.locale = letters := by
  unfold shiftedLetters? at h
  split at h
  · obtain rfl := Option.some.inj h
    exact Page.upper_upper _ _
  · cases h

/-- Above the space bar row a shifted page is in upper case, the function keys among the letters too. -/
theorem upper_of_mem_shifted_page (made : make name c grid first second = .ok k) {state : ShiftState} {shifted : Page}
    (hs : k.page? form (.shifted state) = some shifted) {n : RowNumber} (hn : n ≠ spaceBarRow) {key : Key}
    (there : key ∈ shifted.rowOr n) : key.upper c.locale = key := by
  obtain ⟨-, rfl⟩ := (page?_shifted_eq_some_iff k form state shifted).1 hs
  rw [customizer_of_make made, rowOr_shifted made] at there
  obtain ⟨plain, -, rfl⟩ := List.mem_map.1 there
  unfold Key.shiftedIn
  rw [if_neg hn]
  split
  · exact Key.upper_of_mem_fixed c.locale _ (by decide)
  · exact Key.upper_upper c.locale plain

/-- In the space bar row all keys but the full stop are fixed. -/
theorem map_upper_spaceBarRow_iff (c : Customizer) (l : Locale) (g₁ g₂ g₃ : Row) (form : FormFactor) :
    ((⟨composedRows c g₁ g₂ g₃ form⟩ : Page).rowOr spaceBarRow).map (Key.upper l) =
        (⟨composedRows c g₁ g₂ g₃ form⟩ : Page).rowOr spaceBarRow ↔
      c.extraPunctuation.map (Key.upper l) = c.extraPunctuation := by
  have stop : ((Key.label ".").offering (c.punctuation form)).upper l = (Key.label ".").offering (c.punctuation form) ↔
      c.extraPunctuation.map (Key.upper l) = c.extraPunctuation := by
    rw [Key.upper_offering, Key.upper_of_mem_fixed l (.label ".") (by decide), ← c.map_upper_punctuation_iff l form]
    exact ⟨congrArg Key.more, congrArg (Key.label ".").offering⟩
  have fixed : ∀ key ∈ aroundLetters, key.upper l = key := fun key hk => Key.upper_of_mem_fixed l key (by simp [hk])
  simp only [aroundLetters, List.forall_mem_append, List.forall_mem_cons] at fixed
  rw [← stop]
  cases form with
  | phone =>
    show List.map _ [_, _, _, _, _] = [_, _, _, _, _] ↔ _
    simp only [List.map_cons, List.map_nil, List.cons.injEq, fixed, true_and, and_true]
    exact Iff.rfl
  | tablet =>
    show List.map _ [_, _, _, _, _, _, _] = [_, _, _, _, _, _, _] ↔ _
    simp only [List.map_cons, List.map_nil, List.cons.injEq, fixed, true_and, and_true]
    exact Iff.rfl

/-- **A shifted page is in upper case exactly if the punctuation of the customizer is.** -/
theorem upper_shifted_eq_iff (made : make name c grid first second = .ok k) {state : ShiftState} {shifted : Page}
    (hs : k.page? form (.shifted state) = some shifted) :
    shifted.upper c.locale = shifted ↔ c.extraPunctuation.map (Key.upper c.locale) = c.extraPunctuation := by
  have last : (shifted.rowOr spaceBarRow).map (Key.upper c.locale) = shifted.rowOr spaceBarRow ↔
      c.extraPunctuation.map (Key.upper c.locale) = c.extraPunctuation := by
    obtain ⟨-, rfl⟩ := (page?_shifted_eq_some_iff k form state shifted).1 hs
    rw [customizer_of_make made, rowOr_shifted made, map_shiftedIn_spaceBarRow made,
      rowOr_mk _ (rows_complete c form _ (rowCount_letters_le made form))]
    exact map_upper_spaceBarRow_iff c c.locale _ _ _ form
  rw [Page.upper_eq_iff, ← last]
  refine ⟨fun rows => rows spaceBarRow, fun same n => ?_⟩
  by_cases above : n = spaceBarRow
  · exact above ▸ same
  · exact map_eq_self fun key there => upper_of_mem_shifted_page made hs above there

end Keyboard

/-- **Upper case is final**, for every key and every locale: whatever a key shows, emits and offers, it is not changed
when it is put into upper case again, and at no time does the tree of what it offers change.  So a page in upper case
stays as it is, and so do the letters of a shifted keyboard and every key of a shifted page above the space bar row.  A
whole shifted page does exactly if the punctuation does that its full stop offers in addition to its own. -/
theorem Key.upper_is_final :
    (∀ (l : Locale) (key : Key), (key.upper l).upper l = key.upper l ∧ (key.upper l).nesting = key.nesting) ∧
    (∀ (l : Locale) (page : Page), (page.upper l).upper l = page.upper l) ∧
    (∀ (k : Keyboard) form element letters, k.shiftedLetters? form element = some letters →
      letters.upper k.customizer.locale = letters) ∧
    ∀ name c grid first second k, Keyboard.make name c grid first second = .ok k →
      ∀ form state shifted, k.page? form (.shifted state) = some shifted →
        (∀ n ≠ spaceBarRow, ∀ key ∈ shifted.rowOr n, key.upper c.locale = key) ∧
        (shifted.upper c.locale = shifted ↔ c.extraPunctuation.map (Key.upper c.locale) = c.extraPunctuation) := by
  refine ⟨fun l key => ⟨key.upper_upper l, key.nesting_upper l⟩, fun l page => page.upper_upper l, ?_, ?_⟩
  · intro k form element letters h
    exact Keyboard.upper_of_shiftedLetters? h
  · intro name c grid first second k made form state shifted hs
    refine ⟨fun n hn key there => ?_, Keyboard.upper_shifted_eq_iff made hs⟩
    exact Keyboard.upper_of_mem_shifted_page made hs hn there

/-- In Turkish: a code that becomes a text, and among what is offered a text of the letter with two capitals, an icon
with a code that is no character and, further down, a control and a function. -/
theorem Key.upper_is_final_of_code_become_text :
    ∃ (turkish : Locale) (key capital : Key), turkish.hasDottedCapital = true ∧
      key = ⟨.label "ŉi", .code 0xDF, [⟨.label "ﬁ", .text "iı", []⟩,
        ⟨.icon "i", .code 0xD800, [⟨.label "", .code 10, []⟩, ⟨.label "ğ", .code (-4), []⟩]⟩]⟩ ∧
      capital = ⟨.label "ʼNİ", .text "SS", [⟨.label "FI", .text "İI", []⟩,
        ⟨.icon "i", .code 0xD800, [⟨.label "", .code 10, []⟩, ⟨.label "Ğ", .code (-4), []⟩]⟩]⟩ ∧
      key.upper turkish = capital ∧ capital.upper turkish = capital ∧ capital.nesting = key.nesting := by
  let turkish : Locale := ⟨"tr", none, by decide +kernel, by decide +kernel⟩
  let key : Key := ⟨.label "ŉi", .code 0xDF, [⟨.label "ﬁ", .text "iı", []⟩,
    ⟨.icon "i", .code 0xD800, [⟨.label "", .code 10, []⟩, ⟨.label "ğ", .code (-4), []⟩]⟩]⟩
  obtain ⟨again, same⟩ := upper_is_final.1 turkish key
  have once : key.upper turkish = ⟨.label "ʼNİ", .text "SS", [⟨.label "FI", .text "İI", []⟩,
      ⟨.icon "i", .code 0xD800, [⟨.label "", .code 10, []⟩, ⟨.label "Ğ", .code (-4), []⟩]⟩]⟩ := by decide +kernel
  rw [once] at again same
  exact ⟨turkish, key, _, by decide +kernel, rfl, rfl, once, again, same⟩

/-- A whole shifted page need not stay as it is: what the full stop offers in its space bar row is not in upper case. -/
theorem Keyboard.shifted_page_not_final :
    ∃ (c : Customizer) (grid : Grid) (k : Keyboard) (shifted : Page), c.extraPunctuation = Key.labels ["tl"] ∧
      make "small" c grid FirstSymbols.make SecondSymbols.make = .ok k ∧
      k.page? .phone (.shifted .locked) = some shifted ∧
      shifted.rowOr spaceBarRow = [.toSymbols, (Key.label ",").offering [.settings], .spaceBar,
        (Key.label ".").offering (Key.phonePunctuation ++ Key.labels ["tl"]), .enterOfferingEmoji] ∧
      shifted.upper c.locale ≠ shifted := by
  let c : Customizer := { Customizer.standard ⟨"en", none, by decide +kernel, by decide +kernel⟩ with
    extraPunctuation := Key.labels ["tl"] }
  let grid : Grid := ⟨⟨[Key.labels ["a"]]⟩, none, false⟩
  have usable : ∀ form, (grid.page form).Usable := fun form => by cases form <;> decide +kernel
  obtain ⟨k, made⟩ := exists_make "small" c usable
  have cased : k.grid.caseless = false := by rw [grid_of_make made]
  obtain ⟨shifted, there⟩ : ∃ shifted, k.page? .phone (.shifted .locked) = some shifted :=
    ⟨_, (page?_shifted_eq_some_iff k .phone .locked _).2 ⟨cased, rfl⟩⟩
  have last : shifted.rowOr spaceBarRow = [.toSymbols, (Key.label ",").offering [.settings], .spaceBar,
      (Key.label ".").offering (Key.phonePunctuation ++ Key.labels ["tl"]), .enterOfferingEmoji] := by
    obtain ⟨-, rfl⟩ := (page?_shifted_eq_some_iff k .phone .locked shifted).1 there
    rw [customizer_of_make made, rowOr_shifted made, map_shiftedIn_spaceBarRow made]
    exact rowOr_mk _ (rows_complete c .phone _ (rowCount_letters_le made .phone)) spaceBarRow
  have small : c.extraPunctuation.map (Key.upper c.locale) ≠ c.extraPunctuation := by decide +kernel
  exact ⟨c, grid, k, shifted, rfl, made, there, last, mt (upper_shifted_eq_iff made there).1 small⟩

end ScreenKeyboard
