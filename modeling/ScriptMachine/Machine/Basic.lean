import ScriptMachine.Arithmetic
import ScriptMachine.Host.Registry
import ScriptMachine.Memory.Stack
import ScriptMachine.Program

/-!
# The state of a running script
-/

namespace ScriptMachine

/-- A script between two instructions. -/
structure Machine where
  code : Array Instruction
  symbols : SymbolTable
  stack : OperandStack := .empty
  /-- The index of the next instruction. -/
  pc : Nat := 0
  /-- The result of the last comparison that succeeded. -/
  comparison : Int := 0
  /-- Nothing runs any more. -/
  halted : Bool := false
  fault : Option Fault := none
  /-- The host functions that calls are resolved against, if any are attached. -/
  functions : Option Registry := none
  /-- The number of instructions executed so far. -/
  steps : Nat := 0

/-- What a host sees of a script. -/
inductive ExecState where
  | running
  | finished
  | faulted (fault : Fault)
  deriving Repr, DecidableEq

def ExecState.name : ExecState → String
  | running => "Running"
  | finished => "Finished"
  | faulted _ => "Faulted"

namespace Machine

/-- A machine at the start of a program. -/
def load (p : Program) (functions : Option Registry := none) : Machine :=
  { code := p.instructions.toArray, symbols := p.symbols, functions }

def isFinished (m : Machine) : Bool := m.halted || decide (m.code.size ≤ m.pc)

def state (m : Machine) : ExecState :=
  match m.fault with
  | some fault => .faulted fault
  | none => if m.isFinished then .finished else .running

/-- The instruction about to be executed, unless the script has ended. -/
def next? (m : Machine) : Option Instruction :=
  if m.halted then none else m.code[m.pc]?

end Machine

end ScriptMachine
