import ScreenKeyboard.Currency
import ScreenKeyboard.LetterMap
import ScreenKeyboard.Locale
import ScreenKeyboard.Quotes
/-!
# Definitions

A definition says what is particular about a keyboard: its letters, the locale, and the policy that
decides the keys in which keyboards differ.  It may leave things open and name a parent, which
settles them: `child.completedBy parent` is the definition of the two together.

Rows belong together.  A child that has phone rows of its own does not take the tablet rows of its
parent, for they were made to go with other letters.
-/
namespace ScreenKeyboard

inductive KeySpec where
  | plain (label : String)
  | offering (label : String) (more : List String)
deriving DecidableEq

namespace KeySpec

def label : KeySpec → String
  | .plain label => label
  | .offering label _ => label

def key : KeySpec → Key
  | .plain label => .label label
  | .offering label more => .labelOffering label more

end KeySpec

/-- The choices in which keyboards differ, as far as they are made. -/
structure Policy where
  currency : Option Currency
  doubleQuotes : Option QuoteOrder
  singleQuotes : Option QuoteOrder
  doubleAngles : Option AngleOrder
  singleAngles : Option AngleOrder
  hasShift : Option Bool
  accents : Option (LetterMap (List String))
  extraPunctuation : Option (List String)
deriving DecidableEq

namespace Policy

def unset : Policy := ⟨none, none, none, none, none, none, none, none⟩

def completedBy (child parent : Policy) : Policy where
  currency := child.currency.or parent.currency
  doubleQuotes := child.doubleQuotes.or parent.doubleQuotes
  singleQuotes := child.singleQuotes.or parent.singleQuotes
  doubleAngles := child.doubleAngles.or parent.doubleAngles
  singleAngles := child.singleAngles.or parent.singleAngles
  hasShift := child.hasShift.or parent.hasShift
  accents := child.accents.or parent.accents
  extraPunctuation := child.extraPunctuation.or parent.extraPunctuation

theorem completedBy_assoc (a b c : Policy) :
    (a.completedBy b).completedBy c = a.completedBy (b.completedBy c) := by
  simp [completedBy, Option.or_assoc]

@[simp] theorem completedBy_unset (a : Policy) : a.completedBy unset = a := by
  simp [completedBy, unset]

@[simp] theorem unset_completedBy (a : Policy) : unset.completedBy a = a := by
  simp [completedBy, unset]

end Policy

structure Definition where
  name : String
  locale : Option Locale
  parent : Option String
  phoneRows : List (List KeySpec)
  tabletRows : Option (List (List KeySpec))
  caseless : Option Bool
  policy : Policy
deriving DecidableEq

namespace Definition

def unset : Definition := ⟨"", none, none, [], none, none, .unset⟩

/-- A child together with its parent: what the child leaves open the parent settles. -/
def completedBy (child parent : Definition) : Definition where
  name := if child.name = "" then parent.name else child.name
  locale := child.locale.or parent.locale
  parent := none
  phoneRows := if child.phoneRows = [] then parent.phoneRows else child.phoneRows
  tabletRows :=
    if child.phoneRows = [] then child.tabletRows.or parent.tabletRows else child.tabletRows
  caseless := child.caseless.or parent.caseless
  policy := child.policy.completedBy parent.policy

end Definition

end ScreenKeyboard
