import ScreenKeyboard.Dump
/-!
# The command line

The program dumps pages.  Its options select what is dumped, on top of a configuration file.  The
arguments are read one after the other (`Command.scan`), and the first thing that decides the
outcome does: a mistake, or a call for help or for the version.  What is left is an `Invocation`,
and `Invocation.run` is what the program then does, given what can be read from files.

An option that takes a value has it in the same argument (`--locale=de`, `-lde`, `-l=de`) or in the
next one, which must not look like an option.  Two options may be given more than once.
-/
namespace ScreenKeyboard

structure Outcome where
  exit : Nat
  output : String
deriving DecidableEq

namespace Outcome

def misuse : Outcome := ⟨2, ""⟩

def failure : Outcome := ⟨1, ""⟩

def success (output : String) : Outcome := ⟨0, output⟩

end Outcome

structure Invocation (Path : Type) where
  locales : List Locale
  elements : List Element
  tablet : Bool
  phone : Bool
  config : Option Path
  pretty : Bool
  list : Bool
deriving DecidableEq

namespace Invocation

variable {Path : Type}

def plain : Invocation Path := ⟨[], [], false, false, none, false, false⟩

def forms? (i : Invocation Path) : Option (List FormFactor) :=
  if i.phone then some [.phone] else if i.tablet then some [.tablet] else none

def override (i : Invocation Path) (c : DumpConfig) : DumpConfig where
  locales := if i.locales.isEmpty then c.locales else i.locales
  forms := i.forms?.getD c.forms
  elements := if i.elements.isEmpty then c.elements else i.elements
  pretty := c.pretty || i.pretty

/-- The configuration that is in effect: the one of the file, which has to pass its own check, or
the one of everything, with the options put over it, and checked again. -/
def effective (files : FileAccess Path) (i : Invocation Path) : Except Fault DumpConfig := do
  let base ← match i.config with
    | some path => DumpConfig.loadFile files path
    | none => .ok DumpConfig.everything
  (i.override base).check
  return i.override base

def listing : String := String.join (Registry.tags.map (· ++ "\n"))

def dump (files : FileAccess Path) (i : Invocation Path) : Except Fault String := do
  let config ← i.effective files
  let entries ← config.entries
  return dumpText config.pretty entries ++ "\n"

def run (files : FileAccess Path) (i : Invocation Path) : Outcome :=
  if i.list then .success listing
  else
    match i.dump files with
    | .ok output => .success output
    | .error _ => .failure

end Invocation

namespace Command

/-! ## Options -/

inductive Setting where
  | locale
  | element
  | config
deriving DecidableEq

inductive Switch where
  | tablet
  | phone
  | pretty
  | list
  | help
  | version
deriving DecidableEq

inductive Choice where
  | setting (s : Setting)
  | switch (s : Switch)
deriving DecidableEq

def longNames : List (String × Choice) :=
  [("locale", .setting .locale), ("element", .setting .element), ("config", .setting .config),
    ("tablet", .switch .tablet), ("phone", .switch .phone), ("pretty", .switch .pretty),
    ("list", .switch .list), ("help", .switch .help), ("version", .switch .version)]

def shortNames : List (Char × Choice) :=
  [('l', .setting .locale), ('e', .setting .element), ('c', .setting .config),
    ('h', .switch .help), ('V', .switch .version)]

def versionText : String := "expected-layouts 0.1.0\n"

def helpText : String :=
  "Dumps expected on-screen keyboard layouts as JSON\n\n"
    ++ "Usage: expected-layouts [OPTIONS]\n\n"
    ++ "Options:\n"
    ++ "  -l, --locale <LOCALE>    Locale to dump (repeatable, e.g. `--locale de_DE`)\n"
    ++ "      --tablet             Dump tablet pages only\n"
    ++ "      --phone              Dump phone pages only\n"
    ++ "  -e, --element <ELEMENT>  Page to dump (repeatable, e.g. `--element symbols`)\n"
    ++ "  -c, --config <FILE>      JSON file selecting locales, form factors and elements\n"
    ++ "      --pretty             Pretty-print the output\n"
    ++ "      --list               List the registered locales and exit\n"
    ++ "  -h, --help               Print help\n"
    ++ "  -V, --version            Print version\n"

/-- Gives an option its value.  A configuration can be given once, and its path is not empty. -/
def applySetting (i : Invocation String) (value : String) :
    Setting → Except Outcome (Invocation String)
  | .locale =>
    match Locale.parse? value with
    | some l => .ok { i with locales := i.locales ++ [l] }
    | none => .error .misuse
  | .element =>
    match Element.parse? value with
    | some e => .ok { i with elements := i.elements ++ [e] }
    | none => .error .misuse
  | .config =>
    if value = "" ∨ i.config.isSome then .error .misuse else .ok { i with config := some value }

/-- Turns a switch on, which can be done once.  Help and version decide the outcome. -/
def applySwitch (i : Invocation String) : Switch → Except Outcome (Invocation String)
  | .tablet => if i.tablet then .error .misuse else .ok { i with tablet := true }
  | .phone => if i.phone then .error .misuse else .ok { i with phone := true }
  | .pretty => if i.pretty then .error .misuse else .ok { i with pretty := true }
  | .list => if i.list then .error .misuse else .ok { i with list := true }
  | .help => .error (.success helpText)
  | .version => .error (.success versionText)

/-! ## Arguments -/

inductive Argument where
  | setting (s : Setting) (value : Option String)
  | switch (s : Switch)
  | endOfOptions
  | mistake
deriving DecidableEq

/-- What an argument after two dashes is.  A value stands behind the first `=`, and a switch has
none. -/
def longArgument (body : List Char) : Argument :=
  let value := match body.dropWhile (· != '=') with
    | [] => none
    | _ :: value => some (String.ofList value)
  match longNames.lookup (String.ofList (body.takeWhile (· != '='))), value with
  | some (.setting s), value => .setting s value
  | some (.switch s), none => .switch s
  | some (.switch _), some _ => .mistake
  | none, _ => .mistake

/-- What an argument after one dash is: a letter, and behind it perhaps a value.  The switches that
have letters decide the outcome, so what comes behind them does not matter. -/
def shortArgument (letter : Char) (body : List Char) : Argument :=
  match shortNames.lookup letter with
  | some (.setting s) =>
    .setting s (match body with
      | [] => none
      | '=' :: value => some (String.ofList value)
      | value => some (String.ofList value))
  | some (.switch s) => .switch s
  | none => .mistake

def argument (arg : String) : Argument :=
  match arg.toList with
  | ['-', '-'] => .endOfOptions
  | '-' :: '-' :: body => longArgument body
  | '-' :: letter :: body => shortArgument letter body
  | _ => .mistake

def isValue (arg : String) : Bool :=
  match arg.toList with
  | '-' :: _ :: _ => false
  | _ => true

def scan (i : Invocation String) : List String → Except Outcome (Invocation String)
  | [] => .ok i
  | arg :: args =>
    match argument arg with
    | .mistake => .error .misuse
    | .endOfOptions => if args = [] then .ok i else .error .misuse
    | .switch s =>
      match applySwitch i s with
      | .ok i => scan i args
      | .error outcome => .error outcome
    | .setting s (some value) =>
      match applySetting i value s with
      | .ok i => scan i args
      | .error outcome => .error outcome
    | .setting s none =>
      match args with
      | [] => .error .misuse
      | value :: rest =>
        if isValue value then
          match applySetting i value s with
          | .ok i => scan i rest
          | .error outcome => .error outcome
        else .error .misuse

/-- What a command line asks for.  The two form factors exclude each other. -/
def invocation (args : List String) : Except Outcome (Invocation String) :=
  match scan .plain args with
  | .error outcome => .error outcome
  | .ok i => if i.tablet && i.phone then .error .misuse else .ok i

def run (files : FileAccess String) (args : List String) : Outcome :=
  match invocation args with
  | .error outcome => outcome
  | .ok i => i.run files

end Command

end ScreenKeyboard
