import ScreenKeyboard.Definition
import ScreenKeyboard.Fault
/-!
# Lineage

A definition that names a parent is completed by it, and the parent by its own parent.  The lineage
is the definition with all its ancestors, nearest first; a definition is resolved by completing
each one by what comes after it.

Parents are loaded by name, and the names that have been asked for are remembered, the name of the
definition itself among them if it has one.  There is no lineage when a name comes up again, when a
parent cannot be loaded, or when there are more than five ancestors; what comes first decides.
-/
namespace ScreenKeyboard.Definition

def maxAncestors : Nat := 5

def cycleFault (asked : List String) (name : String) : Fault :=
  .cycle ("Circular inheritance detected: layout inherits from '" ++ name ++ "'") (asked ++ [name])

def depthFault : Fault := .tooDeep "Inheritance chain too deep" maxAncestors (maxAncestors + 1)

def lineageWithin (load : String → Except Fault Definition) (asked : List String) :
    Nat → Definition → Except Fault (List Definition)
  | more, d =>
    match d.parent with
    | none => .ok [d]
    | some name =>
      if asked.contains name then .error (cycleFault asked name)
      else
        match load name with
        | .error fault => .error fault
        | .ok parent =>
          match more with
          | 0 => .error depthFault
          | more + 1 => (d :: ·) <$> lineageWithin load (asked ++ [name]) more parent

/-- A definition with its ancestors, nearest first. -/
def lineage (load : String → Except Fault Definition) (origin : Option String) (d : Definition) :
    Except Fault (List Definition) :=
  lineageWithin load origin.toList maxAncestors d

/-- Each definition completed by all that come after it; the last one is left as it is. -/
def merged (first : Definition) : List Definition → Definition
  | [] => first
  | next :: rest => first.completedBy (merged next rest)

def ofLineage : List Definition → Definition
  | [] => unset
  | first :: rest => merged first rest

def resolve (load : String → Except Fault Definition) (origin : Option String) (d : Definition) :
    Except Fault Definition :=
  ofLineage <$> lineage load origin d

end ScreenKeyboard.Definition
