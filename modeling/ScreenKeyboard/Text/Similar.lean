import ScreenKeyboard.Text.Lower
/-!
# Similar names

Whoever asks for a name that does not exist is told of one that does and may have been meant.  Case
does not matter.  A name that is otherwise the same comes first.  Else the first one is taken that
contains the other or is contained in it, or that is about as long (up to two bytes longer or
shorter) and has nearly all of its characters (as many as it has bytes, less two).
-/
namespace ScreenKeyboard.Text

def occursIn (part : List Char) : List Char → Bool
  | [] => part.isEmpty
  | c :: cs => part.isPrefixOf (c :: cs) || occursIn part cs

theorem occursIn_iff (part cs : List Char) : occursIn part cs = true ↔ part <:+: cs := by
  induction cs with
  | nil => simp [occursIn]
  | cons c cs ih => simp [occursIn, ih, List.infix_cons_iff]

def sharedCount (target candidate : List Char) : Nat := target.countP candidate.contains

def sharesMost (target candidate : String) : Bool :=
  candidate.utf8ByteSize ≤ target.utf8ByteSize + 2
    && target.utf8ByteSize ≤ candidate.utf8ByteSize + 2
    && target.utf8ByteSize ≤ sharedCount target.toList candidate.toList + 2

def oneContainsOther (target candidate : String) : Bool :=
  occursIn target.toList candidate.toList || occursIn candidate.toList target.toList

def isSimilar (target candidate : String) : Bool :=
  sharesMost (lower target) (lower candidate) || oneContainsOther (lower target) (lower candidate)

/-- The name that may have been meant; an empty name means none. -/
def similar? (target : String) (candidates : List String) : Option String :=
  if lower target = "" then none
  else (candidates.find? fun c => lower c == lower target).or (candidates.find? (isSimilar target))

end ScreenKeyboard.Text
