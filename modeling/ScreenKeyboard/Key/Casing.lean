import ScreenKeyboard.Key
import ScreenKeyboard.Locale
import ScreenKeyboard.Text.Upper
/-!
# Upper case of keys

Shifting a keyboard puts its keys into upper case: the label, the output, and everything that the
key offers.  Characters are mapped on their own and may become several; in the languages with a
dotted capital, `i` becomes `İ`.  A code whose character becomes several characters turns into a
text.  Function codes, controls, icons and codes that are no characters stay as they are.
-/
namespace ScreenKeyboard

namespace Locale

def upperChars (l : Locale) (c : Char) : List Char :=
  if l.hasDottedCapital && c == 'i' then ['İ'] else Text.upperChars c

def upperText (l : Locale) (s : String) : String := String.ofList (s.toList.flatMap l.upperChars)

end Locale

def Code.upper (l : Locale) (code : Code) : Output :=
  if code.isLetter then
    match code.char? with
    | some c => Output.ofLabel (String.ofList (l.upperChars c))
    | none => .code code
  else .code code

namespace Visual

def upper (l : Locale) : Visual → Visual
  | .label text => .label (l.upperText text)
  | .icon name => .icon name

end Visual

namespace Output

def upper (l : Locale) : Output → Output
  | .code c => c.upper l
  | .text t => .text (l.upperText t)

end Output

namespace Key

mutual

/-- A key in upper case, with everything that it offers. -/
def upper (l : Locale) : Key → Key
  | ⟨visual, output, more⟩ => ⟨visual.upper l, output.upper l, upperList l more⟩

def upperList (l : Locale) : List Key → List Key
  | [] => []
  | k :: ks => upper l k :: upperList l ks

end

theorem upperList_eq_map (l : Locale) (keys : List Key) :
    upperList l keys = keys.map (upper l) := by
  induction keys with
  | nil => rfl
  | cons k ks ih => rw [upperList, ih, List.map_cons]

theorem upper_mk (l : Locale) (visual : Visual) (output : Output) (more : List Key) :
    upper l ⟨visual, output, more⟩ = ⟨visual.upper l, output.upper l, more.map (upper l)⟩ := by
  rw [upper, upperList_eq_map]

@[simp] theorem more_upper (l : Locale) (key : Key) :
    (key.upper l).more = key.more.map (upper l) := by
  cases key; rw [upper_mk]

end Key

end ScreenKeyboard
