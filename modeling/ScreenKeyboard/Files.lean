/-!
# Files

A program reads files by path from the folder it works in.  `Files` is that folder as a value: what
lies in it, by path.  `Files.read` walks a path as a file system does, part by part: every part but
the last has to be a folder, `.` stays where it is, `..` goes up, and a path that ends in a slash
ends in `.`.  Nothing is known of the folders around the working folder, so nothing is found there.

Paths need not be texts.  `FileAccess` is what a program has of files whatever their paths are: what
can be read, and how a path is shown.
-/
namespace ScreenKeyboard

inductive FileFault where
  | missing
  | isFolder
  | notFolder
  | notText
  | nulInPath
  | other (text : String)
deriving DecidableEq

namespace FileFault

def text : FileFault → String
  | .missing   => "No such file or directory (os error 2)"
  | .isFolder  => "Is a directory (os error 21)"
  | .notFolder => "Not a directory (os error 20)"
  | .notText   => "stream did not contain valid UTF-8"
  | .nulInPath => "file name contained an unexpected NUL byte"
  | .other t   => t

end FileFault

inductive FileEntry where
  | file (content : ByteArray)
  | folder

/-- The working folder: entries by their path in it.  The folders on the way to an entry need no
entry of their own. -/
structure Files where
  entries : List (List String × FileEntry)

namespace Files

/-- A place in the file system: a path in the working folder, or somewhere around it. -/
inductive Place where
  | inside (path : List String)
  | outside
deriving DecidableEq

def find? (files : Files) (path : List String) : Option FileEntry :=
  match files.entries.lookup path with
  | some entry => some entry
  | none =>
    if path = [] || files.entries.any (fun e => path.isPrefixOf e.1) then some .folder else none

def isFolder (files : Files) : Place → Bool
  | .inside path => match files.find? path with
    | some .folder => true
    | _ => false
  | .outside => true

def step (files : Files) (part : String) : Place → Except FileFault Place
  | .inside path =>
    if part = "" || part = "." then .ok (.inside path)
    else if part = ".." then .ok (if path = [] then .outside else .inside path.dropLast)
    else match files.find? (path ++ [part]) with
      | some _ => .ok (.inside (path ++ [part]))
      | none => .error .missing
  | .outside =>
    if part = "" || part = "." || part = ".." then .ok .outside else .error .missing

def walk (files : Files) (start : Place) : List String → Except FileFault Place
  | [] => .ok start
  | part :: parts =>
    if files.isFolder start then
      match files.step part start with
      | .ok next => files.walk next parts
      | .error e => .error e
    else .error .notFolder

def parts (path : String) : List String := (path.toList.splitOn '/').map String.ofList

/-- The place of a path; a path that starts with a slash starts outside. -/
def locate (files : Files) (path : String) : Except FileFault Place :=
  if path = "" then .error .missing
  else if path.toList.head? = some '/' then files.walk .outside (parts path)
  else files.walk (.inside []) (parts path)

def read (files : Files) (path : String) : Except FileFault String :=
  if path.toList.any fun c => c.toNat == 0 then .error .nulInPath
  else match files.locate path with
    | .error e => .error e
    | .ok .outside => .error .isFolder
    | .ok (.inside at_) =>
      match files.find? at_ with
      | none => .error .missing
      | some .folder => .error .isFolder
      | some (.file content) =>
        match String.fromUTF8? content with
        | some text => .ok text
        | none => .error .notText

end Files

/-- The files that a program can reach. -/
structure FileAccess (Path : Type) where
  read : Path → Except FileFault String
  shown : Path → String

def Files.access (files : Files) : FileAccess String := ⟨files.read, id⟩

end ScreenKeyboard
