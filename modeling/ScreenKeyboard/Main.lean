import ScreenKeyboard.Command
/-!
# The program

Reads the arguments and the one file that they may name, prints the output and ends with the exit
code of `Command.run`.
-/
namespace ScreenKeyboard

def readSystemFile (path : String) : IO (Except FileFault String) := do
  try
    let bytes ← IO.FS.readBinFile path
    match String.fromUTF8? bytes with
    | some text => return .ok text
    | none => return .error .notText
  catch e => return .error (.other (toString e))

end ScreenKeyboard

open ScreenKeyboard in
def main (args : List String) : IO UInt32 := do
  let outcome ← match Command.invocation args with
    | .error outcome => pure outcome
    | .ok i =>
      match i.list, i.config with
      | false, some path =>
        let text ← readSystemFile path
        pure (i.run ⟨fun _ => text, id⟩)
      | _, _ => pure (i.run ⟨fun _ => .error .missing, id⟩)
  IO.print outcome.output
  return outcome.exit.toUInt32
