import ScreenKeyboard.Grid.Check
/-!
# Checking definitions

A definition is checked when its ancestors have completed it: its grid, and the two things that only
a definition can get wrong, an empty name and shift keys on a keyboard without upper case.  Both are
warnings.
-/
namespace ScreenKeyboard

/-- A definition that passed its check, with the warnings. -/
structure Checked where
  definition : Definition
  warnings : List Issue
deriving DecidableEq

namespace Definition

def nameIssues (d : Definition) : List Issue :=
  if Text.trimChars d.name.toList = [] then
    [.warning "Layout name is empty" "name" (some "Provide a descriptive name for the layout")]
  else []

def isCaseless (d : Definition) : Bool := d.caseless.getD false

def shiftIssues (d : Definition) : List Issue :=
  if d.isCaseless ∧ d.policy.hasShift = some true then
    [.warning "Caseless layout keeps its shift keys" "customizer.has_shift_key"
      (some "Set has_shift_key to false for scripts without letter case")]
  else []

def accentedLetters (d : Definition) : List String :=
  (d.policy.accents.map LetterMap.letters).getD []

def issues (d : Definition) : List Issue :=
  d.nameIssues ++ d.shiftIssues ++ (Grid.ofDefinition d).issues d.accentedLetters

def check (d : Definition) : Except Fault Checked :=
  (fun warnings => ⟨d, warnings⟩) <$> Issue.settle d.issues

end Definition

end ScreenKeyboard
