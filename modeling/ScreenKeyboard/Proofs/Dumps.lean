import Mathlib.Data.List.Basic
import ScreenKeyboard.Dump
import ScreenKeyboard.Proofs.Registered
import ScreenKeyboard.Proofs.ShiftedPage
import ScreenKeyboard.Proofs.Steps
/-!
# Complete dumps

A configuration that passes its check can be dumped, and nothing is missing from the dump: it answers each request, in
order, with the page of a keyboard that is loaded for it alone, though every keyboard is loaded before the first request
is answered (`entries_of_check`).  Only the pads are left out, which no keyboard has, so the size of a dump is known
before anything is loaded.
-/
namespace ScreenKeyboard

variable {α β : Type}

/-! ## Blocks -/

/-- Blocks of one size that stand behind each other: an index is the number of a block and an index into it. -/
theorem getElem?_flatMap_of_length {f : α → List β} {n : Nat} (size : ∀ a, (f a).length = n) :
    ∀ (xs : List α) (i : Nat), (xs.flatMap f)[i]? = xs[i / n]?.bind fun a => (f a)[i % n]?
  | [], i => by simp
  | a :: xs, i => by
    rw [List.flatMap_cons]
    by_cases first : i < n
    · rw [List.getElem?_append_left (by rwa [size]), Nat.div_eq_of_lt first, Nat.mod_eq_of_lt first]
      rfl
    · have behind : n ≤ i := Nat.le_of_not_lt first
      rw [List.getElem?_append_right (by rwa [size]), size, getElem?_flatMap_of_length size xs]
      rcases Nat.eq_zero_or_pos n with rfl | pos
      · -- Empty blocks have nothing at any index.
        simp [List.eq_nil_of_length_eq_zero (size _)]
      · rw [Nat.div_eq_sub_div pos behind, Nat.mod_eq_sub_mod behind, List.getElem?_cons_succ]

theorem length_flatMap_of_length {f : α → List β} {n : Nat} (size : ∀ a, (f a).length = n) (xs : List α) :
    (xs.flatMap f).length = xs.length * n := by
  induction xs with
  | nil => simp
  | cons a xs ih => rw [List.flatMap_cons, List.length_append, ih, size, List.length_cons, Nat.succ_mul, Nat.add_comm]

/-! ## Pages -/

def Element.pads : List Element := [.phonePad, .phonePadSymbols, .numberPad]

/-- A keyboard that has upper case has all pages but the pads. -/
theorem Keyboard.page?_eq_none_iff_pad {k : Keyboard} (cased : k.grid.caseless = false) (form : FormFactor)
    (element : Element) : k.page? form element = none ↔ element ∈ Element.pads := by
  cases symbols : element.isSymbols with
  | false =>
    rw [page?_eq_none_iff k form symbols, cased]
    simp [Element.pads]
  | true =>
    cases element with
    | symbols => simp [page?, Element.pads]
    | symbolsShifted => simp [page?, Element.pads]
    | _ => cases symbols

/-- What answers a request when a keyboard is loaded for it alone. -/
def DumpRequest.answer? (request : DumpRequest) : Option DumpEntry :=
  match Registry.load request.locale with
  | .ok k => (k.page? request.form request.element).map (DumpEntry.mk request)
  | .error _ => none

namespace DumpConfig

/-! ## Checking -/

theorem issues_eq_nil_iff (c : DumpConfig) : c.issues = [] ↔ c.locales ≠ [] ∧ c.forms ≠ [] ∧ c.elements ≠ [] := by
  have one : ∀ field isEmpty, emptyIssue field isEmpty = [] ↔ isEmpty = false := by
    intro field isEmpty
    cases isEmpty <;> simp [emptyIssue]
  rw [issues, List.append_eq_nil_iff, List.append_eq_nil_iff, one, one, one]
  simp [and_assoc]

/-- **A configuration is accepted when every list selects something and every locale is registered.** -/
theorem check_eq_ok_iff (c : DumpConfig) : c.check = .ok () ↔
    (c.locales ≠ [] ∧ c.forms ≠ [] ∧ c.elements ≠ []) ∧ ∀ l ∈ c.locales, l.tag ∈ Registry.tags := by
  have one : ∀ l : Locale, (fun _ => ()) <$> Registry.find l = .ok () ↔ l.tag ∈ Registry.tags := by
    intro l
    simp only [map_eq_ok_iff, Registry.find_eq_ok_iff]
    simp
  rw [← issues_eq_nil_iff]
  unfold check
  split
  · rename_i none_empty
    rw [forM_eq_ok_iff, and_iff_right none_empty]
    exact forall₂_congr fun l _ => one l
  · rename_i some_empty
    exact ⟨nofun, fun h => absurd h.1 some_empty⟩

/-! ## Requests -/

/-- **A request by its number**: each locale has one block of requests, and in it each form factor has one. -/
theorem getElem?_requests (c : DumpConfig) (i : Nat) : c.requests[i]? =
    c.locales[i / (c.forms.length * c.elements.length)]?.bind fun locale =>
      c.forms[i / c.elements.length % c.forms.length]?.bind fun form =>
        c.elements[i % c.elements.length]?.map fun element => ⟨locale, form, element⟩ := by
  have elements : ∀ (locale : Locale) (form : FormFactor),
      (c.elements.map fun element => DumpRequest.mk locale form element).length = c.elements.length :=
    fun _ _ => List.length_map _
  have forms : ∀ locale : Locale, (c.forms.flatMap fun form => c.elements.map fun element =>
      DumpRequest.mk locale form element).length = c.forms.length * c.elements.length :=
    fun locale => length_flatMap_of_length (elements locale) c.forms
  rw [requests, getElem?_flatMap_of_length forms]
  congr 1
  funext locale
  rw [getElem?_flatMap_of_length (elements locale), Nat.mod_mul_left_div_self, Nat.mod_mul_left_mod]
  congr 1
  funext form
  rw [List.getElem?_map]

theorem length_requests (c : DumpConfig) :
    c.requests.length = c.locales.length * c.forms.length * c.elements.length := by
  rw [requests, length_flatMap_of_length (fun _ => length_flatMap_of_length (fun _ => List.length_map _) _),
    Nat.mul_assoc]

theorem locale_mem_of_mem_requests {c : DumpConfig} {request : DumpRequest} (h : request ∈ c.requests) :
    request.locale ∈ c.locales := by
  obtain ⟨locale, listed, h⟩ := List.mem_flatMap.1 h
  obtain ⟨form, -, h⟩ := List.mem_flatMap.1 h
  obtain ⟨element, -, rfl⟩ := List.mem_map.1 h
  exact listed

/-- Leaving elements out of a configuration leaves out their requests. -/
theorem filter_requests (c : DumpConfig) (p : Element → Bool) :
    c.requests.filter (fun r => p r.element) = { c with elements := c.elements.filter p }.requests := by
  simp only [requests, List.filter_flatMap, List.filter_map]
  rfl

/-! ## Entries -/

/-- The keyboards of a dump, which are loaded once for each place in the list, answer as fresh ones do. -/
theorem entries_of_registered {c : DumpConfig} (registered : ∀ l ∈ c.locales, l.tag ∈ Registry.tags) :
    c.entries = .ok (c.requests.filterMap DumpRequest.answer?) := by
  obtain ⟨kept, loaded, agrees⟩ := exists_mapM_pairs c.locales fun l there =>
    Registry.exists_load_iff.2 (registered l there)
  rw [entries, keyboards, loaded]
  refine congrArg Except.ok (List.filterMap_congr fun request asked => ?_)
  obtain ⟨k, fresh, looked⟩ := agrees _ (locale_mem_of_mem_requests asked)
  simp only [pageFor?, looked, DumpRequest.answer?, fresh, Option.bind_eq_bind, Option.bind_some]
  cases k.page? request.form request.element <;> rfl

/-- The requests that are answered are those that ask for no pad. -/
theorem map_request_answers {requests : List DumpRequest} (registered : ∀ r ∈ requests, r.locale.tag ∈ Registry.tags) :
    (requests.filterMap DumpRequest.answer?).map DumpEntry.request =
      requests.filter fun r => r.element ∉ Element.pads := by
  rw [List.map_filterMap, ← List.filterMap_eq_filter]
  refine List.filterMap_congr fun r there => ?_
  obtain ⟨k, loaded⟩ := Registry.exists_load_iff.2 (registered r there)
  have missing := Keyboard.page?_eq_none_iff_pad (Registry.caseless_of_load loaded) r.form r.element
  simp only [DumpRequest.answer?, loaded, Option.map_map]
  by_cases pad : r.element ∈ Element.pads
  · simp [missing.2 pad, Option.guard, pad]
  · obtain ⟨page, there⟩ := Option.ne_none_iff_exists'.1 fun none => pad (missing.1 none)
    simp [there, Option.guard, pad]

/-- **Every configuration that is accepted is dumped completely.**  Its requests go through the elements for each form
factor and through the form factors for each locale.  Each of their keyboards can be loaded, is built of the definition
that is registered for its locale, and has all pages but the pads.  The entries are the answers of these keyboards in
the order of the requests, as if each keyboard were loaded for one request alone, and there is one for each request that
asks for no pad. -/
theorem entries_of_check {c : DumpConfig} (accepted : c.check = .ok ()) :
    (∀ i : Nat, c.requests[i]? =
      c.locales[i / (c.forms.length * c.elements.length)]?.bind fun locale =>
        c.forms[i / c.elements.length % c.forms.length]?.bind fun form =>
          c.elements[i % c.elements.length]?.map fun element => ⟨locale, form, element⟩) ∧
    (∀ r ∈ c.requests, ∃ k, Registry.load r.locale = .ok k ∧ Registry.Built r.locale k ∧
      k.customizer.locale = r.locale ∧ r.answer? = (k.page? r.form r.element).map (fun page => ⟨r, page⟩) ∧
      (k.page? r.form r.element = none ↔ r.element ∈ Element.pads)) ∧
    ∃ entries, c.entries = .ok entries ∧ entries = c.requests.filterMap DumpRequest.answer? ∧
      entries.length =
        c.locales.length * c.forms.length * (c.elements.filter fun e => e ∉ Element.pads).length := by
  obtain ⟨-, registered⟩ := c.check_eq_ok_iff.1 accepted
  have asked : ∀ r ∈ c.requests, r.locale.tag ∈ Registry.tags := fun r h =>
    registered _ (locale_mem_of_mem_requests h)
  refine ⟨c.getElem?_requests, ?_, _, entries_of_registered registered, rfl, ?_⟩
  · intro r h
    obtain ⟨k, loaded⟩ := Registry.exists_load_iff.2 (asked r h)
    have built := Registry.load_eq_ok_iff_built.1 loaded
    refine ⟨k, loaded, built, built.locale_eq, ?_,
      Keyboard.page?_eq_none_iff_pad (Registry.caseless_of_load loaded) r.form r.element⟩
    rw [DumpRequest.answer?, loaded]
  · rw [← List.length_map DumpEntry.request, map_request_answers asked,
      c.filter_requests fun e => e ∉ Element.pads, length_requests]

/-- A locale that comes up again is dumped again, and of three pages for each form factor a pad is left out.  The first
page is that of the registered definition, in upper case where it has letters, and so is the page that comes again. -/
theorem entries_of_check_of_repeated_locale :
    ∃ (turkish german : Locale) (c : DumpConfig) (entries : List DumpEntry), turkish.tag = "tr_TR" ∧
      german.tag = "de_DE" ∧ c.check = .ok () ∧ c.locales = [turkish, german, turkish] ∧
      c.elements = [.shifted .locked, .phonePad, .symbols] ∧
      c.requests[10]? = some ⟨german, .phone, .phonePad⟩ ∧ c.requests[12]? = some ⟨turkish, .tablet, .shifted .locked⟩ ∧
      c.entries = .ok entries ∧ entries = c.requests.filterMap DumpRequest.answer? ∧ entries.length = 12 ∧
      entries[0]? = some ⟨⟨turkish, .tablet, .shifted .locked⟩, ⟨[
        Key.labels ["Q", "W"] ++ [.labelOffering "E" ["É", "Ə"]] ++ Key.labels ["R", "T", "Y"] ++
          [.labelOffering "U" ["Û", "Ù", "Ú", "Ū"], .label "I",
            .labelOffering "O" ["Ô", "Œ", "Ò", "Ó", "Õ", "Ø", "Ō"]] ++ Key.labels ["P", "Ğ", "Ü"] ++ [.delete],
        [.labelOffering "A" ["Â", "Ä", "Á"], .labelOffering "S" ["Ś", "SS", "Š"]] ++
          Key.labels ["D", "F", "G", "H", "J", "K", "L", "Ş", "İ"] ++ [.enter],
        [.shiftActive] ++ Key.labels ["Z", "X"] ++ [.labelOffering "C" ["Ć", "Č"]] ++
          Key.labels ["V", "B", "N", "M", "Ö", "Ç"] ++
          [.labelOffering "!" ["¡"], .labelOffering "?" ["¿"], .shiftActive],
        [.toSymbols, .settings, .label "/", .spaceBar, .label ",",
          .labelOffering "." [";", "/", "(", ")", "#", "'", ",", "&", "%", "+", "\"", "-", ":", "@"], .emoji]]⟩⟩ ∧
      entries[8]? = entries[0]? := by
  let turkish : Locale := ⟨"tr", some "TR", by decide +kernel, by decide +kernel⟩
  let german : Locale := ⟨"de", some "DE", by decide +kernel, by decide +kernel⟩
  let c : DumpConfig :=
    ⟨[turkish, german, turkish], [.tablet, .phone], [.shifted .locked, .phonePad, .symbols], false⟩
  have accepted : c.check = .ok () := c.check_eq_ok_iff.2 ⟨by decide, by decide +kernel⟩
  obtain ⟨numbered, -, entries, dumped, answers, size⟩ := entries_of_check accepted
  refine ⟨turkish, german, c, entries, by decide, by decide, accepted, rfl, rfl, (numbered 10).trans (by decide),
    (numbered 12).trans (by decide), dumped, answers, size, ?_, ?_⟩
  · rw [answers]
    decide +kernel
  · rw [answers]
    decide +kernel

end DumpConfig

end ScreenKeyboard
