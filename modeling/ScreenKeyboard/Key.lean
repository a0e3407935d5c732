import ScreenKeyboard.Json.Value
import ScreenKeyboard.Key.Code
/-!
# Keys

A key is what stands at one place of a keyboard: what is drawn on it, what it emits, and the keys
that a long press offers, which are keys again.  Keys are equal when all of this is, at every
depth.

A key made from a label emits what the label shows: one character as its code, anything else as
text.  `Key.text` leaves the output out exactly for keys of that sort.
-/
namespace ScreenKeyboard

inductive Visual where
  | label (text : String)
  | icon (name : String)
deriving DecidableEq

inductive Output where
  | code (code : Code)
  | text (text : String)
deriving DecidableEq

/-- What stands at one place of a keyboard, with the keys that a long press offers. -/
structure Key where
  visual : Visual
  output : Output
  more : List Key

/-! ## Equality -/

mutual

/-- Keys are compared with all that they offer, at every depth. -/
def Key.decEq : (a b : Key) → Decidable (a = b)
  | ⟨v, o, m⟩, ⟨v', o', m'⟩ =>
    if hv : v = v' then
      if ho : o = o' then
        match Key.decEqList m m' with
        | .isTrue hm => .isTrue (by rw [hv, ho, hm])
        | .isFalse hm => .isFalse fun h => hm (Key.mk.inj h).2.2
      else .isFalse fun h => ho (Key.mk.inj h).2.1
    else .isFalse fun h => hv (Key.mk.inj h).1

def Key.decEqList : (a b : List Key) → Decidable (a = b)
  | [], [] => .isTrue rfl
  | [], _ :: _ => .isFalse nofun
  | _ :: _, [] => .isFalse nofun
  | a :: as, b :: bs =>
    match Key.decEq a b with
    | .isFalse h => .isFalse fun e => h (List.cons.inj e).1
    | .isTrue h =>
      match Key.decEqList as bs with
      | .isFalse hs => .isFalse fun e => hs (List.cons.inj e).2
      | .isTrue hs => .isTrue (by rw [h, hs])

end

instance : DecidableEq Key := Key.decEq

namespace Output

/-- The output of a label: the code of its only character, or else the text itself. -/
def ofLabel (label : String) : Output :=
  match label.toList with
  | [c] => .code (Code.ofChar c)
  | _ => .text label

def emitted : Output → Code
  | .code c => c
  | .text _ => Code.outputText

def shown : Output → String
  | .code c => c.text
  | .text t => t

def toJson : Output → Json
  | .code c => .object [("code", .int c)]
  | .text t => .object [("text", .text t)]

end Output

namespace Visual

def shown : Visual → String
  | .label text => text
  | .icon name => "!icon/" ++ name

def label? : Visual → Option String
  | .label text => some text
  | .icon _ => none

/-- The output that the visual alone would give; an icon gives none. -/
def output? : Visual → Option Output
  | .label text => some (Output.ofLabel text)
  | .icon _ => none

def toJson : Visual → Json
  | .label text => .object [("label", .text text)]
  | .icon name => .object [("icon", .text name)]

end Visual

namespace Key

/-! ## Making keys -/

def label (text : String) : Key := ⟨.label text, Output.ofLabel text, []⟩

def coded (text : String) (code : Code) : Key := ⟨.label text, .code code, []⟩

def icon (name : String) (code : Code) : Key := ⟨.icon name, .code code, []⟩

def offering (key : Key) (more : List Key) : Key := { key with more }

def labels (texts : List String) : List Key := texts.map label

def labelOffering (text : String) (more : List String) : Key := (label text).offering (labels more)

/-! ## Reading keys -/

def label? (key : Key) : Option String := key.visual.label?

def hasLabel (key : Key) (text : String) : Bool := key.label? == some text

@[simp] theorem label?_label (text : String) : (label text).label? = some text := rfl

@[simp] theorem label?_offering (key : Key) (more : List Key) :
    (key.offering more).label? = key.label? := rfl

@[simp] theorem hasLabel_iff (key : Key) (text : String) :
    key.hasLabel text = true ↔ key.visual = .label text := by
  cases h : key.visual <;> simp [hasLabel, label?, h, Visual.label?]

mutual

/-- A key as it is shown: what is drawn, what is emitted where the drawing does not tell, and what
it offers. -/
def text : Key → String
  | ⟨visual, output, more⟩ =>
    (if visual.output? = some output then visual.shown else visual.shown ++ "|" ++ output.shown)
      ++ (match more with
        | [] => ""
        | k :: ks => "^[" ++ text k ++ textRest ks ++ "]")

def textRest : List Key → String
  | [] => ""
  | k :: ks => "," ++ text k ++ textRest ks

end

mutual

def toJson : Key → Json
  | ⟨visual, output, more⟩ =>
    .object (("visual", visual.toJson) :: ("output", output.toJson)
      :: (match more with
        | [] => []
        | k :: ks => [("more_keys", .list (toJson k :: toJsonList ks))]))

def toJsonList : List Key → List Json
  | [] => []
  | k :: ks => toJson k :: toJsonList ks

end

theorem toJsonList_eq_map (keys : List Key) : toJsonList keys = keys.map toJson := by
  induction keys with
  | nil => rfl
  | cons k ks ih => rw [toJsonList, ih, List.map_cons]

end Key

end ScreenKeyboard
