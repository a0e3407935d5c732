import ScreenKeyboard.Proofs.Dumps
import ScreenKeyboard.Proofs.EveryKey
import ScreenKeyboard.Proofs.PrintedText
/-!
# Printed dumps

The only numbers in a dump are the codes of keys.  Those are characters and functions, for the keys of a definition are
all made from labels, so they fit 64 bits on every page of every keyboard.  Hence the text of a dump is one JSON text
that has the entries of the dump, and no others (`lexemes_of_dumpText`).
-/
namespace ScreenKeyboard

/-! ## Codes -/

namespace Output

/-- Whether a code that is emitted fits 64 bits. -/
def Small : Output → Prop
  | .code n => n.natAbs < Nat.pow 2 63
  | .text _ => True

instance : DecidablePred Small
  | .code _ => inferInstanceAs (Decidable (_ < Nat.pow 2 63))
  | .text _ => inferInstanceAs (Decidable True)

theorem small_ofLabel (text : String) : (ofLabel text).Small := by
  unfold ofLabel
  split
  · rename_i c _
    have word : c.val.toNat < 2 ^ 32 := c.val.toNat_lt
    exact Nat.lt_trans word (by decide)
  · trivial

theorem small_upper (l : Locale) {output : Output} (small : output.Small) : (output.upper l).Small := by
  cases output with
  | text t => trivial
  | code n =>
    change (Code.upper l n).Small
    unfold Code.upper
    split
    · split
      · exact small_ofLabel _
      · exact small
    · exact small

theorem small_of_stock {visual : Visual} {output : Output} (stock : Key.Stock visual output) : output.Small := by
  have functions : ∀ f ∈ Key.functions, f.2.Small := by decide +kernel
  cases visual with
  | label text =>
    rcases stock with ⟨-, rfl⟩ | function
    · exact small_ofLabel text
    · exact functions _ function
  | icon name => exact functions _ stock

theorem fits_toJson {output : Output} (small : output.Small) : output.toJson.Fits := by
  cases output with
  | code n => exact .object (List.forall_mem_singleton.2 (.int small))
  | text t => exact .object (List.forall_mem_singleton.2 (.text t))

end Output

theorem Visual.fits_toJson (visual : Visual) : visual.toJson.Fits := by
  cases visual with
  | label text => exact .object (List.forall_mem_singleton.2 (.text text))
  | icon name => exact .object (List.forall_mem_singleton.2 (.text name))

/-- Whether all codes of a page fit 64 bits, also those of keys that are only offered. -/
abbrev Page.SmallCodes (page : Page) : Prop := page.Throughout fun _ output => output.Small

theorem Key.fits_toJson {key : Key} (small : key.Throughout fun _ output => output.Small) : key.toJson.Fits := by
  induction small with
  | @mk visual output more here _ ih =>
    have drawn := visual.fits_toJson
    have emitted := output.fits_toJson here
    cases more with
    | nil => exact .object (List.forall_mem_cons.2 ⟨drawn, List.forall_mem_singleton.2 emitted⟩)
    | cons k ks =>
      have offered : (Json.list (toJsonList (k :: ks))).Fits := by
        rw [toJsonList_eq_map]
        refine .list fun x hx => ?_
        obtain ⟨key, hk, rfl⟩ := List.mem_map.1 hx
        exact ih key hk
      exact .object (List.forall_mem_cons.2
        ⟨drawn, List.forall_mem_cons.2 ⟨emitted, List.forall_mem_singleton.2 offered⟩⟩)

/-! ## Dumps -/

/-- The codes on a page that answers a request fit 64 bits. -/
theorem DumpRequest.smallCodes_of_answer {request : DumpRequest} {entry : DumpEntry}
    (answered : request.answer? = some entry) : entry.page.SmallCodes := by
  unfold answer? at answered
  split at answered
  · rename_i k loaded
    obtain ⟨d, -, made⟩ := Registry.definition_of_load loaded
    obtain ⟨page, there, rfl⟩ := Option.map_eq_some_iff.1 answered
    exact Keyboard.throughout_page_of_definition Output.small_ofLabel (fun _ _ => Output.small_of_stock)
      (fun l _ _ => Output.small_upper l) made there
  · cases answered

theorem Page.fits_toJson {page : Page} (small : page.SmallCodes) : page.toJson.Fits := by
  refine .list fun x hx => ?_
  obtain ⟨row, hr, rfl⟩ := List.mem_map.1 hx
  refine .list fun y hy => ?_
  obtain ⟨key, hk, rfl⟩ := List.mem_map.1 hy
  exact Key.fits_toJson (small key (List.mem_flatten.2 ⟨row, hr, hk⟩))

theorem DumpEntry.fits_toJson {entry : DumpEntry} (small : entry.page.SmallCodes) : entry.toJson.Fits := by
  have texts : ∀ m ∈ [("locale", Json.text entry.request.locale.tag), ("form_factor", .text entry.request.form.name),
      ("element", .text entry.request.element.name)], m.2.Fits := by
    simp [Json.Fits.text]
  refine .object fun m hm => ?_
  rcases List.mem_append.1 (show m ∈ [_, _, _] ++ [("layout", entry.page.toJson)] from hm) with hm | hm
  · exact texts m hm
  · rw [List.mem_singleton.1 hm]
    exact entry.page.fits_toJson small

/-- **What a dump prints is one JSON text**, in either layout: its tokens are those of the list of its entries, and then
it is over. -/
theorem lexemes_of_dumpText {requests : List DumpRequest} {entries : List DumpEntry}
    (answers : entries = requests.filterMap DumpRequest.answer?) (pretty : Bool) :
    (Json.tokens 1 (dumpText pretty entries ++ "\n").toList).map Json.Token.lexeme =
      Json.lexemes (.list (entries.map DumpEntry.toJson)) ++ [.stop] := by
  have fits : (Json.list (entries.map DumpEntry.toJson)).Fits := by
    refine .list fun x hx => ?_
    obtain ⟨entry, he, rfl⟩ := List.mem_map.1 hx
    rw [answers] at he
    obtain ⟨request, -, answered⟩ := List.mem_filterMap.1 he
    exact entry.fits_toJson (DumpRequest.smallCodes_of_answer answered)
  exact Json.lexemes_of_printed fits pretty

end ScreenKeyboard
