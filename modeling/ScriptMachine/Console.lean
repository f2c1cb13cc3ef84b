import ScriptMachine.Loader
import ScriptMachine.Runner

/-!
# The command line

Runs a program twice, once step by step and once on a runner, and shows what both saw. The program comes
from a file, or is a small demonstration when none is named.
-/

namespace ScriptMachine.Console

/-- What a session writes, and how it exits. -/
structure Transcript where
  output : String
  errors : String := ""
  exitCode : UInt32 := 0

/-- The instructions a script may run. -/
def stepLimit : Nat := 1000000

/-- The one function that scripts have here: it shows its argument. -/
def print : HostFunction := fun arguments =>
  { result := .ok .void, lines := arguments.map fun v => "  [script] " ++ v.text }

def printSignature : Signature := ⟨"print", 1⟩

def functions : Registry := ⟨.ofList [(printSignature, ⟨"console", print⟩)]⟩

/-- Sums the numbers from one to ten and shows every partial sum. -/
def demonstration : Program :=
  let var (name : String) := Location.named name .int
  let number (i : Int32) := Location.immediate (.int i)
  { symbols := .ofList [("i", .int 1), ("total", .int 0)]
    instructions := [
      .compare (var "i") (number 10),
      .jump .greater 7,
      .binary .addInt (var "total") (var "i") (var "total"),
      .binary .addInt (var "total") (number 0) (.stack .int),
      { opcode := .call, first := some (.immediate (.identifier "print")), second := some (number 1) },
      .binary .addInt (var "i") (number 1) (var "i"),
      .jump .always 0,
      { opcode := .halt }] }

def unlines (lines : List String) : String := String.join (lines.map (· ++ "\n"))

def banner : String :=
  unlines ["Plume Script Engine v0.1.0", "==========================", ""]

/-- A text filled with blanks up to twelve characters. -/
def column (text : String) : String :=
  text ++ String.ofList (List.replicate (12 - text.length) ' ')

/-! ## The two runs -/

/-- The program after running step by step. -/
def stepped (p : Program) : Machine × Journal :=
  (Machine.load p (some functions)).record stepLimit #[]

def config : Config := { budget := some stepLimit }

/-- The rounds after which a runner has reported any script that keeps to the limit. -/
def patience : Nat := stepLimit / config.perTick + 1

/-- The report on the program from a runner, and what was noticed. -/
def reported (p : Program) : Except RunnerError (Report × Journal) := do
  let runner ← Runner.start config
  let (runner, id) ← runner.submit (Machine.load p (some functions))
  let (result, runner) := runner.wait id patience
  return (← result, runner.shutdown.ledger.journal)

/-! ## What is shown -/

def stateText (m : Machine) : String :=
  match m.state with
  | .finished => "finished"
  | .faulted fault => "faulted (" ++ fault.text ++ ")"
  | .running => "still running after " ++ toString stepLimit ++ " steps"

def steppedText (p : Program) : String :=
  let (m, journal) := stepped p
  unlines journal.hostLines ++
    unlines [
      "Stepped run:",
      "  PC:           " ++ toString m.pc,
      "  Instructions: " ++ toString m.steps,
      "  Stack depth:  " ++ toString m.stack.size,
      "  State:        " ++ stateText m,
      ""]

def reportText (report : Report) (journal : Journal) : String :=
  unlines journal.hostLines ++
    unlines ([
      "Runner report:",
      "  Outcome:      " ++ report.outcome.inspect,
      "  Instructions: " ++ toString report.steps,
      "Variables:"] ++
      report.symbols.entries.map (fun e => "  " ++ column e.1 ++ " " ++ e.2.text) ++
      [""])

/-- A session that ends with an error message. -/
def failed (output message : String) : Transcript :=
  { output, errors := "Error: " ++ message ++ "\n", exitCode := 1 }

/-- Runs a program and shows both runs. -/
def runProgram (p : Program) : Transcript :=
  let shown := banner ++ "Program:\n" ++ p.text ++ "\n" ++ steppedText p
  match reported p with
  | .error e => failed shown e.message
  | .ok (report, journal) =>
    let shown := shown ++ reportText report journal
    if report.outcome = .finished then
      { output := shown ++ "✓ Script finished successfully!\n" }
    else failed shown ("script did not finish: " ++ report.outcome.inspect)

/-! ## Load failures -/

/-- A message behind a margin; its further lines are indented as deep. -/
def indented (margin continuation message : String) : String :=
  margin ++ ("\n" ++ continuation).intercalate (message.splitOn "\n")

/-- The causes of an error, numbered if there are several. -/
def causesText (causes : List String) : String :=
  match causes with
  | [cause] => indented "    " "    " cause
  | causes =>
    "\n".intercalate (causes.mapIdx fun i cause =>
      indented ("    " ++ toString i ++ ": ") "       " cause)

def loadFailure (path : String) (e : LoadError) : Transcript :=
  failed banner ("failed to load program " ++ path ++ "\n\nCaused by:\n" ++ causesText e.causes)

/-- A session with the given arguments, of which only the first counts: it names the program. -/
def session (arguments : List String) (read : String → Except ReadError ByteArray) : Transcript :=
  match arguments with
  | [] => runProgram demonstration
  | path :: _ =>
    match Program.ofFile path (read path) with
    | .ok p => runProgram p
    | .error e => loadFailure path e

end ScriptMachine.Console
