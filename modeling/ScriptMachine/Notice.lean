import ScriptMachine.Host.Function
import ScriptMachine.Program

/-!
# Notices

What there is to tell while scripts are registered for, run and retired, in the order in which it
happens. Most notices have a line in the log; host functions may also have written lines of their own.
-/

namespace ScriptMachine

/-- How a submitted script ended. -/
inductive Outcome where
  | finished
  | faulted (fault : Fault)
  /-- It used up the steps it was allowed. -/
  | budgetExhausted
  /-- The runner shut down before it ended. -/
  | abandoned
  deriving Repr, DecidableEq

namespace Outcome

def kind : Outcome → String
  | finished => "Finished"
  | faulted _ => "Faulted"
  | budgetExhausted => "BudgetExhausted"
  | abandoned => "Abandoned"

def inspect (outcome : Outcome) : String :=
  match outcome with
  | faulted fault => Text.withPart outcome.kind fault.inspect
  | _ => outcome.kind

end Outcome

inductive Notice where
  /-- An instruction is about to be executed. -/
  | executing (pc : Nat) (instruction : Instruction)
  /-- A host function was called. -/
  | called (call : HostCall)
  /-- An instruction stopped its script. -/
  | faulted (instruction : Instruction) (fault : Fault)
  | registered (signature : Signature) (group : String)
  | unregistered (count : Nat) (group : String)
  | started
  | stopped
  /-- A script left the runner. -/
  | retired (id steps : Nat) (outcome : Outcome)

/-- Notices, oldest first. -/
abbrev Journal := Array Notice

namespace Notice

/-- The line of a notice in the log. A host function that fails has none of its own: the fault that
follows tells of it. -/
def logLine? : Notice → Option String
  | executing pc instruction => some ("TRACE " ++ instruction.listed pc)
  | called call =>
    match call.reply.result with
    | .ok value => some ("DEBUG host call " ++ call.signature.text ++ " -> " ++ value.text)
    | .error _ => none
  | faulted instruction fault =>
    some ("WARN script fault at " ++ instruction.listed fault.pc ++ ": " ++ fault.error.message)
  | registered signature group =>
    some ("DEBUG registered host function " ++ signature.text ++ " in group " ++ group)
  | unregistered count group =>
    some ("DEBUG unregistered " ++ toString count ++ " host functions from group " ++ group)
  | started => some "INFO script runner started"
  | stopped => some "INFO script runner stopped"
  | retired id steps outcome =>
    some ("DEBUG script " ++ toString id ++ " retired after " ++ toString steps ++ " steps: " ++
      outcome.inspect)

/-- What there is to tell when this many functions of a group were withdrawn: nothing of a group that
had none. -/
def withdrawn (count : Nat) (group : String) : List Notice :=
  if count = 0 then [] else [.unregistered count group]

/-- The lines that a called host function wrote. -/
def hostLines : Notice → List String
  | called call => call.reply.lines
  | _ => []

end Notice

namespace Journal

def logLines (j : Journal) : List String := j.toList.filterMap Notice.logLine?

def hostLines (j : Journal) : List String := j.toList.flatMap Notice.hostLines

end Journal

end ScriptMachine
