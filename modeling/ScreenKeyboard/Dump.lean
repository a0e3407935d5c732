import ScreenKeyboard.Registry
/-!
# Dumps

A dump lists pages as JSON.  Its configuration selects locales, form factors and elements; each
locale is combined with each form factor and each element, in this order, and pages that a keyboard
does not have are left out.  What a configuration file does not select is taken in full.
-/
namespace ScreenKeyboard

open Json (Decoded Node RecordShape)
open Json.Node

def FormFactor.ofNode (node : Node) : Decoded FormFactor :=
  asChoice (FormFactor.all.map fun f => (f.name, f)) node

def Element.ofNode (node : Node) : Decoded Element :=
  asChoice (Element.all.map fun e => (e.name, e)) node

/-- What a dump selects, and whether it is written with a line for each item. -/
structure DumpConfig where
  locales : List Locale
  forms : List FormFactor
  elements : List Element
  pretty : Bool
deriving DecidableEq

structure DumpRequest where
  locale : Locale
  form : FormFactor
  element : Element
deriving DecidableEq

/-- A page that was asked for and that there is. -/
structure DumpEntry where
  request : DumpRequest
  page : Page
deriving DecidableEq

namespace DumpConfig

def everything : DumpConfig := ⟨Registry.locales, FormFactor.all, Element.all, false⟩

/-! ## Format -/

def toJson (c : DumpConfig) : Json := .object [
  ("locales", .list (c.locales.map fun l => .text l.tag)),
  ("form_factors", .list (c.forms.map fun f => .text f.name)),
  ("elements", .list (c.elements.map fun e => .text e.name)),
  ("pretty", .bool c.pretty)]

def shape : RecordShape where
  name := "DumpConfig"
  fields := ["locales", "form_factors", "elements", "pretty"]
  required := []

def set (field : String) (node : Node) (c : DumpConfig) : Decoded DumpConfig :=
  match field with
  | "locales" => return { c with locales := ← asList Locale.ofNode node }
  | "form_factors" => return { c with forms := ← asList FormFactor.ofNode node }
  | "elements" => return { c with elements := ← asList Element.ofNode node }
  | "pretty" => return { c with pretty := ← asBool node }
  | _ => return c

def ofNode (node : Node) : Decoded DumpConfig := asRecord shape set everything node

def ofText (text : String) : Except Fault DumpConfig :=
  (Json.decodeText ofNode text).mapError (.json · none)

/-! ## Checking -/

def emptyIssue (field : String) (isEmpty : Bool) : List Issue :=
  if isEmpty then
    [.error "List is empty" field (some "Remove the field to use the default")]
  else []

def issues (c : DumpConfig) : List Issue :=
  emptyIssue "locales" c.locales.isEmpty ++ emptyIssue "form_factors" c.forms.isEmpty
    ++ emptyIssue "elements" c.elements.isEmpty

/-- Checks that every list selects something, and then that every locale has a keyboard. -/
def check (c : DumpConfig) : Except Fault Unit :=
  match c.issues with
  | [] => c.locales.forM fun locale => (fun _ => ()) <$> Registry.find locale
  | issues => .error (.invalid issues none)

def load (path text : String) : Except Fault DumpConfig :=
  (do
    let config ← ofText text
    config.check
    return config).mapError (Fault.within path)

def loadFile {Path : Type} (files : FileAccess Path) (path : Path) : Except Fault DumpConfig :=
  match files.read path with
  | .error reason => .error (.unreadable reason (some (files.shown path)))
  | .ok text => load (files.shown path) text

/-! ## Pages -/

def requests (c : DumpConfig) : List DumpRequest :=
  c.locales.flatMap fun locale => c.forms.flatMap fun form => c.elements.map fun element =>
    ⟨locale, form, element⟩

def keyboards (c : DumpConfig) : Except Fault (List (Locale × Keyboard)) :=
  c.locales.mapM fun locale => (fun keyboard => (locale, keyboard)) <$> Registry.load locale

def pageFor? (keyboards : List (Locale × Keyboard)) (request : DumpRequest) : Option DumpEntry := do
  let keyboard ← keyboards.lookup request.locale
  let page ← keyboard.page? request.form request.element
  return ⟨request, page⟩

/-- All pages that are asked for and that there are, in order. -/
def entries (c : DumpConfig) : Except Fault (List DumpEntry) :=
  (fun keyboards => c.requests.filterMap (pageFor? keyboards)) <$> c.keyboards

end DumpConfig

def DumpEntry.toJson (e : DumpEntry) : Json := .object [
  ("locale", .text e.request.locale.tag),
  ("form_factor", .text e.request.form.name),
  ("element", .text e.request.element.name),
  ("layout", e.page.toJson)]

def dumpText (pretty : Bool) (entries : List DumpEntry) : String :=
  let json := Json.list (entries.map DumpEntry.toJson)
  if pretty then json.pretty else json.compact

end ScreenKeyboard
