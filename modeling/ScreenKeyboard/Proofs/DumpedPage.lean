import ScreenKeyboard.Proofs.Registered
import ScreenKeyboard.Proofs.WrittenConfig
/-!
# Dumped pages

A page is dumped as bare lists of keys, a key is an object, and a key that offers nothing has no member for what it
offers.  Nothing is lost on the way: a page is read back from its value, and pages that are dumped as the same value are
the same page (`dumped_pages_read_back`).  The members of an object may stand in any order for that, as they may for
every reader of JSON (`Json.Same`).
-/
namespace ScreenKeyboard

/-! ## The same value -/

namespace Json

/-- **The same JSON value**: lists agree place by place, and objects name by name, in whatever order the members
stand. -/
inductive Same : Json → Json → Prop
  | null : Same .null .null
  | bool (b : Bool) : Same (.bool b) (.bool b)
  | int (n : Int) : Same (.int n) (.int n)
  | text (s : String) : Same (.text s) (.text s)
  | list {xs ys : List Json} (items : ∀ i : Nat, Option.Rel Same xs[i]? ys[i]?) : Same (.list xs) (.list ys)
  | object {ms ns : List (String × Json)} (members : ∀ name, Option.Rel Same (ms.lookup name) (ns.lookup name)) :
    Same (.object ms) (.object ns)

mutual

theorem same_refl : ∀ v : Json, Same v v
  | .null => .null
  | .bool b => .bool b
  | .int n => .int n
  | .text s => .text s
  | .list items => .list (same_refl_items items)
  | .object members => .object (same_refl_members members)

theorem same_refl_items : ∀ (items : List Json) (i : Nat), Option.Rel Same items[i]? items[i]?
  | [], _ => .none
  | x :: _, 0 => .some (same_refl x)
  | _ :: xs, i + 1 => same_refl_items xs i

theorem same_refl_members : ∀ (members : List (String × Json)) (name : String),
    Option.Rel Same (members.lookup name) (members.lookup name)
  | [], _ => .none
  | (k, x) :: ms, name => by
    rw [List.lookup_cons]
    split
    · exact .some (same_refl x)
    · exact same_refl_members ms name

end

namespace Same

/-- The same objects have the same members, also when a value stands in for a missing one. -/
theorem member {ms ns : List (String × Json)} (same : Same (.object ms) (.object ns)) (name : String)
    (missing : Json) : Same ((ms.lookup name).getD missing) ((ns.lookup name).getD missing) := by
  cases same with
  | object members =>
    have related := members name
    revert related
    generalize ms.lookup name = x, ns.lookup name = y
    rintro (h | _)
    · exact h
    · exact same_refl missing

theorem text_inj : ∀ {s t : String}, Same (.text s) (.text t) → s = t
  | _, _, .text _ => rfl

/-- Lists are told apart when their items are. -/
theorem list_inj {α : Type} {write : α → Json} {as bs : List α}
    (tells : ∀ a ∈ as, ∀ b, (write a).Same (write b) → a = b)
    (same : Same (.list (as.map write)) (.list (bs.map write))) : as = bs := by
  cases same with
  | list items =>
    refine List.ext_getElem? fun i => ?_
    have related := items i
    rw [List.getElem?_map, List.getElem?_map] at related
    cases ha : as[i]? with
    | none =>
      cases hb : bs[i]? with
      | none => rfl
      | some b =>
        rw [ha, hb] at related
        cases related
    | some a =>
      cases hb : bs[i]? with
      | none =>
        rw [ha, hb] at related
        cases related
      | some b =>
        rw [ha, hb] at related
        cases related with
        | some h => rw [tells a (List.mem_of_getElem? ha) b h]

end Same

end Json

/-! ## Keys -/

def Visual.ofJson? : Json → Option Visual
  | .object [("label", .text text)] => some (.label text)
  | .object [("icon", .text name)] => some (.icon name)
  | _ => none

def Output.ofJson? : Json → Option Output
  | .object [("code", .int n)] => some (.code n)
  | .object [("text", .text t)] => some (.text t)
  | _ => none

theorem Visual.ofJson?_toJson (visual : Visual) : ofJson? visual.toJson = some visual := by
  cases visual <;> rfl

theorem Output.ofJson?_toJson (output : Output) : ofJson? output.toJson = some output := by
  cases output <;> rfl

theorem Visual.eq_of_same : ∀ {a b : Visual}, a.toJson.Same b.toJson → a = b
  | .label _, .label _, same => by
    cases same.member "label" .null
    rfl
  | .icon _, .icon _, same => by
    cases same.member "icon" .null
    rfl
  | .label _, .icon _, same => nomatch same.member "label" .null
  | .icon _, .label _, same => nomatch same.member "label" .null

theorem Output.eq_of_same : ∀ {a b : Output}, a.toJson.Same b.toJson → a = b
  | .code _, .code _, same => by
    cases same.member "code" .null
    rfl
  | .text _, .text _, same => by
    cases same.member "text" .null
    rfl
  | .code _, .text _, same => nomatch same.member "code" .null
  | .text _, .code _, same => nomatch same.member "code" .null

namespace Key

/-- The member for what a key offers, which is left out when that is nothing. -/
def moreMember (more : List Key) : List (String × Json) :=
  if more = [] then [] else [("more_keys", .list (more.map toJson))]

theorem toJson_mk (visual : Visual) (output : Output) (more : List Key) :
    toJson ⟨visual, output, more⟩ =
      .object (("visual", visual.toJson) :: ("output", output.toJson) :: moreMember more) := by
  cases more with
  | nil => rfl
  | cons k ks => rw [toJson, moreMember, if_neg (List.cons_ne_nil k ks), List.map_cons, toJsonList_eq_map]

/-- A missing member stands for an empty list. -/
theorem lookup_moreMember (more : List Key) :
    ((moreMember more).lookup "more_keys").getD (.list []) = .list (more.map toJson) := by
  unfold moreMember
  split
  · rename_i nothing
    rw [nothing]
    rfl
  · rfl

/-- **Keys that are written as the same value are the same key.** -/
theorem eq_of_same : ∀ a b : Key, a.toJson.Same b.toJson → a = b
  | ⟨visual, output, more⟩, ⟨visual', output', more'⟩, same => by
    rw [toJson_mk, toJson_mk] at same
    have drawn : visual = visual' := Visual.eq_of_same (same.member "visual" .null)
    have emitted : output = output' := Output.eq_of_same (same.member "output" .null)
    have offers : Json.Same (.list (more.map toJson)) (.list (more'.map toJson)) := by
      rw [← lookup_moreMember, ← lookup_moreMember]
      exact same.member "more_keys" (.list [])
    have offered : more = more' := offers.list_inj fun k _ => eq_of_same k
    rw [drawn, emitted, offered]

/-! ## Reading back -/

mutual

def ofJson? : Json → Option Key
  | .object members => do
    let visual ← (members.lookup "visual").bind Visual.ofJson?
    let output ← (members.lookup "output").bind Output.ofJson?
    return ⟨visual, output, ← moreOf? members⟩
  | _ => none

/-- What a key offers, which is nothing where no member says so. -/
def moreOf? : List (String × Json) → Option (List Key)
  | [] => some []
  | (name, value) :: rest => if name = "more_keys" then listOf? value else moreOf? rest

def listOf? : Json → Option (List Key)
  | .list items => itemsOf? items
  | _ => none

def itemsOf? : List Json → Option (List Key)
  | [] => some []
  | x :: xs => do return (← ofJson? x) :: (← itemsOf? xs)

end

theorem moreOf?_moreMember {more : List Key} (h : itemsOf? (more.map toJson) = some more) :
    moreOf? (moreMember more) = some more := by
  unfold moreMember
  split
  · rename_i nothing
    rw [nothing, moreOf?]
  · rw [moreOf?, if_pos rfl, listOf?, h]

mutual

/-- **A key is read back from its value.** -/
theorem ofJson?_toJson : ∀ key : Key, ofJson? key.toJson = some key
  | ⟨visual, output, more⟩ => by
    have offered := moreOf?_moreMember (itemsOf?_map_toJson more)
    rw [toJson_mk, ofJson?]
    simp [List.lookup_cons, visual.ofJson?_toJson, output.ofJson?_toJson, moreOf?, offered]

theorem itemsOf?_map_toJson : ∀ keys : List Key, itemsOf? (keys.map toJson) = some keys
  | [] => rfl
  | k :: ks => by
    rw [List.map_cons, itemsOf?, ofJson?_toJson k, itemsOf?_map_toJson ks]
    rfl

end

end Key

/-! ## Pages -/

namespace Page

def ofJson? : Json → Option Page
  | .list rows => Page.mk <$> rows.mapM Key.listOf?
  | _ => none

theorem mapM_listOf? : ∀ rows : List Row, (rows.map fun row => .list (row.map Key.toJson)).mapM Key.listOf? = some rows
  | [] => rfl
  | row :: rows => by
    rw [List.map_cons, List.mapM_cons, Key.listOf?, Key.itemsOf?_map_toJson row, mapM_listOf? rows]
    rfl

theorem ofJson?_toJson (page : Page) : ofJson? page.toJson = some page := by
  rw [toJson, ofJson?, mapM_listOf? page.rows]
  rfl

theorem eq_of_same (a b : Page) (same : a.toJson.Same b.toJson) : a = b := by
  have rows : a.rows = b.rows := same.list_inj fun _ _ _ rowsSame => rowsSame.list_inj fun key _ => key.eq_of_same
  exact congrArg Page.mk rows

end Page

/-! ## Dumps -/

/-- **What an entry is written as**: an object that says what was asked for, and whose layout is that of the page. -/
inductive DumpEntry.Written (e : DumpEntry) : Json → Prop
  | intro {layout : Json} (page : Page.ofJson? layout = some e.page) : Written e (.object [
      ("locale", .text e.request.locale.tag), ("form_factor", .text e.request.form.name),
      ("element", .text e.request.element.name), ("layout", layout)])

theorem DumpEntry.written_toJson (e : DumpEntry) : e.Written e.toJson := .intro e.page.ofJson?_toJson

theorem eq_of_lookup_name {α : Type} {choices : List (String × α)} {name : α → String}
    (listed : ∀ a, choices.lookup (name a) = some a) {a b : α} (same : name a = name b) : a = b := by
  have found := listed a
  rw [same, listed b] at found
  exact (Option.some.inj found).symm

/-- **Entries that are written as the same value are the same**: what was asked for is known by its names. -/
theorem DumpEntry.eq_of_same : ∀ a b : DumpEntry, a.toJson.Same b.toJson → a = b
  | ⟨⟨locale, form, element⟩, page⟩, ⟨⟨locale', form', element'⟩, page'⟩, same => by
    have locales : locale = locale' := Locale.eq_of_tag_eq (Json.Same.text_inj (same.member "locale" .null))
    have forms : form = form' :=
      eq_of_lookup_name FormFactor.lookup_name (Json.Same.text_inj (same.member "form_factor" .null))
    have elements : element = element' :=
      eq_of_lookup_name Element.lookup_name (Json.Same.text_inj (same.member "element" .null))
    have pages : page = page' := page.eq_of_same page' (same.member "layout" .null)
    rw [locales, forms, elements, pages]

/-- **A dump says which pages it was made of**: each page is read back from its value, and pages, and whole dumps, that
are written as the same value are the same. -/
theorem dumped_pages_read_back :
    (∀ page : Page, Page.ofJson? page.toJson = some page) ∧
    (∀ a b : Page, a.toJson.Same b.toJson ↔ a = b) ∧
    ∀ as bs : List DumpEntry,
      (Json.list (as.map DumpEntry.toJson)).Same (.list (bs.map DumpEntry.toJson)) ↔ as = bs := by
  refine ⟨Page.ofJson?_toJson, fun a b => ⟨Page.eq_of_same a b, ?_⟩, fun as bs => ⟨?_, ?_⟩⟩
  · rintro rfl
    exact Json.same_refl _
  · exact fun same => same.list_inj fun entry _ => entry.eq_of_same
  · rintro rfl
    exact Json.same_refl _

end ScreenKeyboard
