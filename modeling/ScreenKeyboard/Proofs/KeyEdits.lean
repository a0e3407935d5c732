import ScreenKeyboard.Page.Script
import ScreenKeyboard.Proofs.Accents
/-!
# Edits of keys where they stand

A key edit changes each key by itself, whatever stands around it (`KeyEdit.apply`).  So a run of such edits changes the
key at each place by what the run makes of that key alone (`Page.editKeys_eq_mapKeys`), and rows and places stay as they
are.  An exchange of one key for another touches the places that hold the very key and no other, and from this it can be
told how often each of the two stands on the page (`Page.key_edits_keep_places`).
-/
namespace ScreenKeyboard

variable {key replacement : Key}

/-! ## One key -/

namespace Key

/-- What stands in the place of a key when one key is exchanged for another. -/
def exchanged (key replacement k : Key) : Key := if k = key then replacement else k

@[simp] theorem exchanged_self (key replacement : Key) : exchanged key replacement key = replacement := if_pos rfl

theorem exchanged_of_ne {k : Key} (other : k ≠ key) : exchanged key replacement k = k := if_neg other

theorem exchanged_ne (differ : replacement ≠ key) (k : Key) : exchanged key replacement k ≠ key := by
  by_cases here : k = key
  · rw [here, exchanged_self]
    exact differ
  · rw [exchanged_of_ne here]
    exact here

/-- After an exchange there is nothing left to exchange. -/
theorem exchanged_exchanged (differ : replacement ≠ key) (k : Key) :
    exchanged key replacement (exchanged key replacement k) = exchanged key replacement k :=
  exchanged_of_ne (exchanged_ne differ k)

/-- The key is known by what is drawn, what is emitted and all that is offered. -/
theorem exchanged_eq (key replacement k : Key) : exchanged key replacement k =
    if k.visual = key.visual ∧ k.output = key.output ∧ k.more = key.more then replacement else k := by
  cases key
  cases k
  unfold exchanged
  simp only [Key.mk.injEq]

/-- In a list of keys the replacement stands where it stood before and where the key stood. -/
theorem count_map_exchanged (differ : replacement ≠ key) (keys : List Key) :
    (keys.map (exchanged key replacement)).count replacement = keys.count replacement + keys.count key := by
  induction keys with
  | nil => rfl
  | cons k keys ih =>
    rw [List.map_cons, List.count_cons, List.count_cons, List.count_cons, ih]
    by_cases here : k = key
    · subst here
      rw [exchanged_self, beq_self_eq_true, beq_self_eq_true, beq_false_of_ne differ.symm]
      simp only [if_true, Bool.false_eq_true, if_false]
      omega
    · rw [exchanged_of_ne here, beq_false_of_ne here]
      simp only [Bool.false_eq_true, if_false]
      omega

end Key

/-- **What a key edit makes of a single key.** -/
def KeyEdit.apply : KeyEdit → Key → Key
  | .replaceAll key replacement => Key.exchanged key replacement
  | .offerOn label more => fun k => if k.hasLabel label then k.offering more else k
  | .offerEach offers => Key.offeringEach offers
  | .upper l => Key.upper l

def KeyEdit.applyAll (edits : List KeyEdit) (key : Key) : Key := edits.foldl (fun k edit => edit.apply k) key

namespace Page

/-! ## The key at a place -/

def key? (page : Page) (n : RowNumber) (i : Nat) : Option Key := (page.rowOr n)[i]?

@[simp] theorem key?_mapKeys (page : Page) (f : Key → Key) (n : RowNumber) (i : Nat) :
    (page.mapKeys f).key? n i = (page.key? n i).map f := by
  unfold key?
  rw [rowOr_mapKeys, List.getElem?_map]

theorem mapKeys_id (page : Page) : page.mapKeys id = page := by
  unfold mapKeys
  rw [List.map_id_fun, List.map_id_fun, id]

/-! ## Runs of edits -/

theorem editKey_eq_mapKeys (page : Page) : ∀ edit : KeyEdit, page.editKey edit = page.mapKeys edit.apply
  | .replaceAll _ _ => rfl
  | .offerOn _ _ => rfl
  | .offerEach offers => offerEach_eq_mapKeys offers page
  | .upper _ => rfl

/-- **A run of key edits is one change of each key where it stands.** -/
theorem editKeys_eq_mapKeys : ∀ (edits : List KeyEdit) (page : Page),
    page.editKeys edits = page.mapKeys (KeyEdit.applyAll edits)
  | [], page => (page.mapKeys_id).symm
  | edit :: edits, page => by
    have step : page.editKeys (edit :: edits) = (page.editKey edit).editKeys edits := rfl
    rw [step, editKeys_eq_mapKeys edits, editKey_eq_mapKeys, mapKeys_mapKeys]
    rfl

/-! ## Exchanging a key -/

theorem replaceAll_eq_mapKeys (page : Page) (key replacement : Key) :
    page.replaceAll key replacement = page.mapKeys (Key.exchanged key replacement) := rfl

theorem countOf_replaceAll (page : Page) (differ : replacement ≠ key) :
    (page.replaceAll key replacement).countOf key = 0 := by
  unfold countOf
  rw [replaceAll_eq_mapKeys, keys_mapKeys, List.count_eq_zero, List.mem_map]
  rintro ⟨k, -, same⟩
  exact Key.exchanged_ne differ k same

theorem countOf_replaceAll_replacement (page : Page) (differ : replacement ≠ key) :
    (page.replaceAll key replacement).countOf replacement = page.countOf replacement + page.countOf key := by
  unfold countOf
  rw [replaceAll_eq_mapKeys, keys_mapKeys, Key.count_map_exchanged differ]

theorem replaceAll_replaceAll (page : Page) (differ : replacement ≠ key) :
    (page.replaceAll key replacement).replaceAll key replacement = page.replaceAll key replacement := by
  have twice : Key.exchanged key replacement ∘ Key.exchanged key replacement = Key.exchanged key replacement :=
    funext (Key.exchanged_exchanged differ)
  rw [replaceAll_eq_mapKeys, replaceAll_eq_mapKeys, mapKeys_mapKeys, twice]

/-- **Key edits move nothing**: after any run of them the rows are as long as before, and at each place stands what the
run makes of the key that stood there, whether keys are exchanged, offered something or put into upper case.  The
accents of a customizer are such an edit.  To exchange a key changes the places where that very key stands, with what is
drawn, what it emits and all that it offers, and no other place; so it stays where it is only offered.  Unless the key
is exchanged for itself, it is then on the page no more, the replacement is there as often as both were before, and to
do it again changes nothing. -/
theorem key_edits_keep_places (page : Page) :
    (∀ edits : List KeyEdit, (page.editKeys edits).shape = page.shape ∧
      ∀ n i, (page.editKeys edits).key? n i = (page.key? n i).map (KeyEdit.applyAll edits)) ∧
    (∀ c : Customizer, c.offerAccents page = page.editKey (.offerEach c.accents.entries)) ∧
    ∀ key replacement : Key,
      (∀ n i, (page.replaceAll key replacement).key? n i = (page.key? n i).map fun k =>
        if k.visual = key.visual ∧ k.output = key.output ∧ k.more = key.more then replacement else k) ∧
      (replacement ≠ key →
        (page.replaceAll key replacement).countOf key = 0 ∧
        (page.replaceAll key replacement).countOf replacement = page.countOf replacement + page.countOf key ∧
        (page.replaceAll key replacement).replaceAll key replacement = page.replaceAll key replacement) := by
  refine ⟨fun edits => ⟨?_, fun n i => ?_⟩, fun c => rfl, fun key replacement => ⟨fun n i => ?_, fun differ => ?_⟩⟩
  · rw [editKeys_eq_mapKeys, shape_mapKeys]
  · rw [editKeys_eq_mapKeys, key?_mapKeys]
  · rw [replaceAll_eq_mapKeys, key?_mapKeys]
    exact congrArg (Option.map · (page.key? n i)) (funext (Key.exchanged_eq key replacement))
  · exact ⟨page.countOf_replaceAll differ, page.countOf_replaceAll_replacement differ,
      page.replaceAll_replaceAll differ⟩

/-- The key stands twice on the page; with something to offer it is another key, and where it is only offered it stays.
A run of all sorts of edits leaves the rows as long as they are, the empty one too. -/
theorem key_edits_keep_places_of_offered_key :
    ∃ (page exchanged : Page) (turkish : Locale),
      page.rows = [[.label "a", .labelOffering "a" ["b"], .labelOffering "b" ["a"]], [], [.label "x", .label "a"]] ∧
      exchanged = page.replaceAll (.label "a") (.label "x") ∧
      exchanged.key? 1 0 = some (.label "x") ∧ exchanged.key? 1 1 = some (.labelOffering "a" ["b"]) ∧
      exchanged.key? 1 2 = some (.labelOffering "b" ["a"]) ∧ exchanged.key? 1 3 = none ∧
      exchanged.countOf (.label "a") = 0 ∧ exchanged.countOf (.label "x") = 3 ∧
      exchanged.replaceAll (.label "a") (.label "x") = exchanged ∧
      (page.editKeys [.offerOn "x" (Key.labels ["i"]), .upper turkish, .replaceAll (.label "A") (.icon "x" (-1)),
        .offerEach [("B", []), ("A", Key.labels ["Ä"])]]).shape = [3, 0, 2] := by
  let page : Page :=
    ⟨[[.label "a", .labelOffering "a" ["b"], .labelOffering "b" ["a"]], [], [.label "x", .label "a"]]⟩
  let turkish : Locale := ⟨"tr", none, by decide +kernel, by decide +kernel⟩
  obtain ⟨runs, -, exchange⟩ := key_edits_keep_places page
  obtain ⟨places, counts⟩ := exchange (.label "a") (.label "x")
  obtain ⟨gone, there, again⟩ := counts (by decide)
  exact ⟨page, _, turkish, rfl, rfl, places 1 0, places 1 1, places 1 2, places 1 3, gone, there, again, (runs _).1⟩

end Page

end ScreenKeyboard
