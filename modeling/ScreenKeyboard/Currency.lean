import ScreenKeyboard.Key
/-!
# Currencies

A keyboard shows one currency on its page of symbols and the others on the second page.
-/
namespace ScreenKeyboard

inductive Currency where
  | dollar
  | euro
deriving DecidableEq

namespace Currency

def named : List (String × Currency) := [("dollar", .dollar), ("euro", .euro)]

def name : Currency → String
  | .dollar => "dollar"
  | .euro => "euro"

theorem lookup_name (c : Currency) : named.lookup c.name = some c := by
  cases c <;> decide

/-- The key of a currency, which offers the other signs. -/
def key : Currency → Key
  | .dollar => .labelOffering "$" ["¢", "£", "€", "¥", "₱"]
  | .euro => .labelOffering "€" ["¢", "£", "$", "¥", "₱"]

def otherKeys : Currency → List Key
  | .dollar => Key.labels ["£", "¢", "€", "¥"]
  | .euro => [.label "£", .label "¥", .labelOffering "$" ["¢"], .label "¢"]

end Currency

end ScreenKeyboard
