import ScreenKeyboard.Keyboard
/-!
# Accents on a page

The letters of a keyboard are its grid with every key changed where it stands: a key whose label has accents offers
them (`letters_eq_mapKeys`).  So rows keep their numbers and lengths, and keys keep what is drawn on them.
-/
namespace ScreenKeyboard

/-- The key with what some offers give its label, one offer after the other. -/
def Key.offeringEach (offers : List (String × List Key)) (key : Key) : Key :=
  offers.foldl (fun k offer => if k.hasLabel offer.1 then k.offering offer.2 else k) key

theorem Key.offeringEach_cons (offer : String × List Key) (offers : List (String × List Key)) (key : Key) :
    key.offeringEach (offer :: offers) =
      (if key.hasLabel offer.1 then key.offering offer.2 else key).offeringEach offers := rfl

@[simp] theorem Key.visual_offeringEach : ∀ (offers : List (String × List Key)) (key : Key),
    (key.offeringEach offers).visual = key.visual
  | [], _ => rfl
  | offer :: offers, key => by
    rw [offeringEach_cons, visual_offeringEach offers]
    split <;> rfl

namespace Page

@[simp] theorem rowCount_mapKeys (page : Page) (f : Key → Key) : (page.mapKeys f).rowCount = page.rowCount :=
  List.length_map _

@[simp] theorem rowOr_mapKeys (page : Page) (f : Key → Key) (n : RowNumber) :
    (page.mapKeys f).rowOr n = (page.rowOr n).map f := by
  unfold mapKeys rowOr
  rw [List.getD_eq_getElem?_getD, List.getD_eq_getElem?_getD, List.getElem?_map]
  cases page.rows[n.index]? <;> rfl

theorem offerEach_eq_mapKeys : ∀ (offers : List (String × List Key)) (page : Page),
    page.offerEach offers = page.mapKeys (Key.offeringEach offers)
  | [], page => by
    have same : Key.offeringEach [] = id := rfl
    rw [same, mapKeys, List.map_id_fun, List.map_id_fun]
    rfl
  | offer :: offers, page => by
    have step : page.offerEach (offer :: offers) = (page.offerOn offer.1 offer.2).offerEach offers := rfl
    rw [step, offerEach_eq_mapKeys offers, offerOn, mapKeys_mapKeys]
    rfl

end Page

namespace Keyboard

/-- **The letters are the grid with every key offering its accents**, and nothing else is changed. -/
theorem letters_eq_mapKeys (k : Keyboard) (form : FormFactor) :
    k.letters form = (k.grid.page form).mapKeys (Key.offeringEach k.customizer.accents.entries) :=
  Page.offerEach_eq_mapKeys _ _

end Keyboard

end ScreenKeyboard
