import Mathlib.Data.List.Pairwise
import ScreenKeyboard.Proofs.DefinedLetters
/-!
# Accents key by key

Accents are handed out letter by letter, each time over the whole page, so a later letter meets keys that earlier ones
have changed.  It cannot tell, for what is drawn on a key never changes and no letter comes up twice.  So in whatever
order the letters come, each key ends up with the accents of its own label, and a key that has no such accents stays as
it was (`Customizer.offerAccents_pointwise`).
-/
namespace ScreenKeyboard

namespace LetterMap

variable {α : Type}

theorem eq_of_mem_entries (m : LetterMap α) : ∀ d ∈ m.entries, ∀ e ∈ m.entries, d.1 = e.1 → d = e := by
  let Same : String × α → String × α → Prop := fun d e => d.1 = e.1 → d = e
  have symm : Std.Symm Same := ⟨fun d e same first => (same first.symm).symm⟩
  refine List.Pairwise.forall_of_forall (R := Same) (fun e _ _ => rfl) (m.sorted.imp ?_)
  intro d e before first
  exact absurd (first ▸ before) (String.lt_irrefl e.1)

end LetterMap

namespace Key

variable {accents : LetterMap (List Key)} {key : Key}

theorem accented_of_listed {text : String} {more : List Key} (drawn : key.visual = .label text)
    (listed : accents.get? text = some more) : key.accented accents = ⟨key.visual, key.output, more⟩ := by
  have own : key.label? = some text := by rw [label?, drawn, Visual.label?]
  rw [accented, own, Option.bind_some, listed]
  rfl

theorem accented_of_unlisted (unlisted : ∀ text, key.visual = .label text → accents.get? text = none) :
    key.accented accents = key := by
  unfold accented label?
  cases drawn : key.visual with
  | icon name => rfl
  | label text => rw [Visual.label?, Option.bind_some, unlisted text drawn]

def taking (key : Key) (offer : String × List Key) : Key := if key.hasLabel offer.1 then key.offering offer.2 else key

@[simp] theorem hasLabel_taking (key : Key) (offer : String × List Key) (text : String) :
    (key.taking offer).hasLabel text = key.hasLabel text := by
  unfold taking
  split <;> rfl

theorem taking_of_other {offer : String × List Key} (h : ¬ key.hasLabel offer.1 = true) : key.taking offer = key :=
  if_neg h

/-- Two letters can be visited in either order, as no key is drawn as both. -/
theorem taking_comm {d e : String × List Key} (h : d.1 = e.1 → d = e) (key : Key) :
    (key.taking d).taking e = (key.taking e).taking d := by
  by_cases hd : key.hasLabel d.1 = true
  · by_cases he : key.hasLabel e.1 = true
    · have drawn := (key.hasLabel_iff d.1).1 hd
      rw [key.hasLabel_iff, drawn, Visual.label.injEq] at he
      rw [h he]
    · have other : (key.taking d).taking e = key.taking d := taking_of_other (by rwa [hasLabel_taking])
      rw [other, taking_of_other he]
  · have other : (key.taking e).taking d = key.taking e := taking_of_other (by rwa [hasLabel_taking])
    rw [other, taking_of_other hd]

/-- **The order in which letters get their accents plays no part.** -/
theorem offeringEach_of_perm {offers : List (String × List Key)} (perm : offers.Perm accents.entries) (key : Key) :
    key.offeringEach offers = key.accented accents := by
  rw [← offeringEach_entries]
  apply perm.foldl_eq'
  intro d hd e he key
  apply taking_comm
  exact accents.eq_of_mem_entries d (perm.mem_iff.1 hd) e (perm.mem_iff.1 he)

end Key

theorem Page.offerEach_of_perm {accents : LetterMap (List Key)} {offers : List (String × List Key)}
    (perm : offers.Perm accents.entries) (page : Page) : page.offerEach offers = page.mapKeys (Key.accented accents) := by
  rw [offerEach_eq_mapKeys, funext (Key.offeringEach_of_perm perm)]

namespace Customizer

theorem offerAccents_eq_mapKeys (c : Customizer) (page : Page) :
    c.offerAccents page = page.mapKeys (Key.accented c.accents) :=
  Page.offerEach_of_perm (.refl _) page

/-- **Handing out accents changes each key where it stands, by its own label**: a label with accents offers these and
nothing else, whatever it offered before and even if they are none, and all other keys stay as they are.  Whatever the
order of the letters, the outcome is the same.  The letters of a keyboard are its grid, changed in this way, and on a
tablet the grid of phones where there is no other. -/
theorem offerAccents_pointwise (c : Customizer) (page : Page) :
    (c.offerAccents page).shape = page.shape ∧
    c.offerAccents page = page.mapKeys (Key.accented c.accents) ∧
    (∀ (n : RowNumber) (i : Nat) (key : Key), (page.rowOr n)[i]? = some key →
      (∀ text more, key.visual = .label text → c.accents.get? text = some more →
        ((c.offerAccents page).rowOr n)[i]? = some ⟨key.visual, key.output, more⟩) ∧
      ((∀ text, key.visual = .label text → c.accents.get? text = none) →
        ((c.offerAccents page).rowOr n)[i]? = some key)) ∧
    (∀ offers : List (String × List Key), offers.Perm c.accents.entries →
      page.offerEach offers = c.offerAccents page) ∧
    ∀ k : Keyboard, k.letters .phone = k.grid.phone.mapKeys (Key.accented k.customizer.accents) ∧
      k.letters .tablet = (k.grid.tablet.getD k.grid.phone).mapKeys (Key.accented k.customizer.accents) := by
  refine ⟨?_, c.offerAccents_eq_mapKeys page, ?_, ?_, ?_⟩
  · rw [offerAccents_eq_mapKeys, Page.shape_mapKeys]
  · intro n i key there
    rw [offerAccents_eq_mapKeys, Page.rowOr_mapKeys, List.getElem?_map, there, Option.map_some]
    refine ⟨fun text more drawn listed => ?_, fun unlisted => ?_⟩
    · rw [Key.accented_of_listed drawn listed]
    · rw [Key.accented_of_unlisted unlisted]
  · intro offers perm
    rw [offerAccents_eq_mapKeys, Page.offerEach_of_perm perm]
  · intro k
    exact ⟨k.customizer.offerAccents_eq_mapKeys _, k.customizer.offerAccents_eq_mapKeys _⟩

/-- A letter that stands twice, once with keys of its own, a letter whose accents are none, an icon that is named like a
letter, and a letter that is only offered: visited from the last to the first. -/
theorem offerAccents_pointwise_backwards :
    ∃ (c : Customizer) (page : Page), c.accents.entries = [("a", Key.labels ["á", "à"]), ("e", [])] ∧
      page.rows = [[.label "a", .labelOffering "a" ["ä"]], [.labelOffering "e" ["é"], .icon "a" 97],
        [.labelOffering "b" ["a"]]] ∧
      page.offerEach [("e", []), ("a", Key.labels ["á", "à"])] = c.offerAccents page ∧
      ((c.offerAccents page).rowOr 1)[1]? = some (.labelOffering "a" ["á", "à"]) ∧
      ((c.offerAccents page).rowOr 2)[0]? = some (.label "e") ∧
      ((c.offerAccents page).rowOr 2)[1]? = some (.icon "a" 97) ∧
      ((c.offerAccents page).rowOr 3)[0]? = some (.labelOffering "b" ["a"]) := by
  let c : Customizer := { Customizer.standard ⟨"en", none, by decide +kernel, by decide +kernel⟩ with
    accents := ⟨[("a", Key.labels ["á", "à"]), ("e", [])], by decide +kernel⟩ }
  let page : Page := ⟨[[.label "a", .labelOffering "a" ["ä"]], [.labelOffering "e" ["é"], .icon "a" 97],
    [.labelOffering "b" ["a"]]]⟩
  obtain ⟨-, -, places, anyOrder, -⟩ := offerAccents_pointwise c page
  refine ⟨c, page, rfl, rfl, anyOrder _ (List.Perm.swap _ _ _), ?_, ?_, ?_, ?_⟩
  · exact (places 1 1 _ rfl).1 "a" (Key.labels ["á", "à"]) rfl rfl
  · exact (places 2 0 _ rfl).1 "e" [] rfl rfl
  · refine (places 2 1 _ rfl).2 fun text drawn => ?_
    cases drawn
  · refine (places 3 0 _ rfl).2 fun text drawn => ?_
    obtain rfl := Visual.label.inj drawn
    rfl

end Customizer

end ScreenKeyboard
