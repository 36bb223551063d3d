import Lettering.Program.Run

/-!
# Entry point

Runs the program on the files and the environment of the process.
-/

namespace Lettering

/-- The fault behind an error of the system. -/
def faultOf : IO.Error → FileFault
  | .noFileOrDirectory .. => .notFound
  | .inappropriateType .. => .notADirectory
  | _ => .nameTooLong

/-- What is at a path of the process. -/
def readPath (path : String) : IO (Except FileFault FileNode) := do
  try return .ok (.data (← IO.FS.readBinFile path))
  catch e => return .error (faultOf e)

/-- Put a text into a file of the process. -/
def writePath (path text : String) : IO (Except FileFault Unit) := do
  try return .ok (← IO.FS.writeFile path text)
  catch e => return .error (faultOf e)

/-- The files and the environment of the process. -/
def processHost : IO (Host IO) := do
  let value ← IO.getEnv fontPathVariable
  let home ← IO.getEnv "HOME"
  return { read := readPath, write := writePath, home := home.getD ""
           fontPath := value.map fun v => Utf8.encode v.toList }

end Lettering

open Lettering in
/-- Run a command line. -/
def main (words : List String) : IO UInt32 := do
  match Command.parse words with
  | .error e =>
    IO.eprintln e.name
    return if e = .displayHelp ∨ e = .displayVersion then 0 else 2
  | .ok command =>
    let outcome ← (← processHost).run command
    IO.print outcome.printed
    match outcome.failure with
    | none => return 0
    | some failure =>
      IO.eprintln ("Error: " ++ failure)
      return 1
