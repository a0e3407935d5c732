/-!
# Issues

An issue is one thing that a check has found: how grave it is, where it is, and perhaps what to do
about it.  Issues are reported in order: errors before warnings, then by the path of the field, and
otherwise as they were found.
-/
namespace ScreenKeyboard

inductive Severity where
  | error
  | warning
deriving DecidableEq

structure Issue where
  severity : Severity
  message : String
  field : String
  suggestion : Option String
deriving DecidableEq

namespace Issue

def error (message field : String) (suggestion : Option String) : Issue :=
  ⟨.error, message, field, suggestion⟩

def warning (message field : String) (suggestion : Option String) : Issue :=
  ⟨.warning, message, field, suggestion⟩

def isError (issue : Issue) : Bool := issue.severity == .error

def text (issue : Issue) : String :=
  (match issue.severity with
    | .error => "[ERROR] "
    | .warning => "[WARNING] ")
    ++ issue.field ++ ": " ++ issue.message
    ++ (match issue.suggestion with
      | none => ""
      | some s => "\n  Suggestion: " ++ s)

/-- Whether an issue may be reported before another: errors come before warnings, and otherwise the
path of the field decides. -/
def le (a b : Issue) : Bool :=
  match a.severity, b.severity with
  | .error, .warning => true
  | .warning, .error => false
  | _, _ => a.field ≤ b.field

/-- Issues in the order of a report; those that are equal in rank stay as they were. -/
def sort (issues : List Issue) : List Issue := issues.mergeSort le

theorem le_total (a b : Issue) : (a.le b || b.le a) = true := by
  unfold le
  cases a.severity <;> cases b.severity <;> simp [String.le_total]

theorem le_trans (a b c : Issue) (hab : a.le b = true) (hbc : b.le c = true) : a.le c = true := by
  obtain ⟨sa, _, fa, _⟩ := a
  obtain ⟨sb, _, fb, _⟩ := b
  obtain ⟨sc, _, fc, _⟩ := c
  cases sa <;> cases sb <;> cases sc <;> simp [le] at hab hbc ⊢
  all_goals exact String.le_trans hab hbc

theorem perm_sort (issues : List Issue) : (sort issues).Perm issues :=
  List.mergeSort_perm issues le

theorem pairwise_sort (issues : List Issue) : (sort issues).Pairwise fun a b => a.le b = true :=
  List.pairwise_mergeSort le_trans le_total issues

end Issue

end ScreenKeyboard
