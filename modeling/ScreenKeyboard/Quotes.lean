import ScreenKeyboard.Key
/-!
# Quotation marks

Quotes are offered in the order in which a language opens and closes them.  There are three marks of
each width, low, left and right, in four orders, and two angle marks of each width in two orders.
-/
namespace ScreenKeyboard

/-- The order of the low, the left and the right mark. -/
inductive QuoteOrder where
  | lowLeftRight
  | rightLowLeft
  | leftLowRight
  | leftRightLow
deriving DecidableEq

inductive AngleOrder where
  | leftRight
  | rightLeft
deriving DecidableEq

namespace QuoteOrder

/-- The orders by name: `9` is the low mark. -/
def named : List (String × QuoteOrder) :=
  [("9LR", .lowLeftRight), ("R9L", .rightLowLeft), ("L9R", .leftLowRight), ("LR9", .leftRightLow)]

def name : QuoteOrder → String
  | .lowLeftRight => "9LR"
  | .rightLowLeft => "R9L"
  | .leftLowRight => "L9R"
  | .leftRightLow => "LR9"

theorem lookup_name (order : QuoteOrder) : named.lookup order.name = some order := by
  cases order <;> decide

def arrange {α : Type} (low left right : α) : QuoteOrder → List α
  | .lowLeftRight => [low, left, right]
  | .rightLowLeft => [right, low, left]
  | .leftLowRight => [left, low, right]
  | .leftRightLow => [left, right, low]

def doubleKeys (order : QuoteOrder) : List Key := Key.labels (order.arrange "„" "“" "”")

def singleKeys (order : QuoteOrder) : List Key := Key.labels (order.arrange "‚" "‘" "’")

end QuoteOrder

namespace AngleOrder

def named : List (String × AngleOrder) := [("LR", .leftRight), ("RL", .rightLeft)]

def name : AngleOrder → String
  | .leftRight => "LR"
  | .rightLeft => "RL"

theorem lookup_name (order : AngleOrder) : named.lookup order.name = some order := by
  cases order <;> decide

def arrange {α : Type} (left right : α) : AngleOrder → List α
  | .leftRight => [left, right]
  | .rightLeft => [right, left]

def doubleKeys (order : AngleOrder) : List Key := Key.labels (order.arrange "«" "»")

def singleKeys (order : AngleOrder) : List Key := Key.labels (order.arrange "‹" "›")

end AngleOrder

end ScreenKeyboard
