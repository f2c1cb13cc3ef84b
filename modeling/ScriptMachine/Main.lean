import ScriptMachine.Console

/-!
# The program

Reads the file that the command line names and shows the session.
-/

namespace ScriptMachine

/-- The content of a file, or why it cannot be read. -/
def readContent (path : String) : IO (Except ReadError ByteArray) := do
  try
    return .ok (← IO.FS.readBinFile path)
  catch
    | .noFileOrDirectory .. => return .error .missing
    | e => return .error (.system (toString e))

end ScriptMachine

def main (arguments : List String) : IO UInt32 := do
  let content ← match arguments with
    | path :: _ => ScriptMachine.readContent path
    | [] => pure (.error .missing)
  let transcript := ScriptMachine.Console.session arguments fun _ => content
  IO.print transcript.output
  IO.eprint transcript.errors
  return transcript.exitCode
