import ScriptMachine.Machine.Action

/-!
# Execution step by step

One step resolves the next instruction and performs its action, or records the fault that stops the
script for good.
-/

namespace ScriptMachine

/-- A machine after a step, and the host call that the step made. -/
structure Turn where
  machine : Machine
  call : Option HostCall := none

namespace Machine

/-- Performs an action on a machine whose instruction left this stack. -/
def perform (m : Machine) (stack : OperandStack) : Action → Machine
  | .advance => { m with stack, pc := m.pc + 1, steps := m.steps + 1 }
  | .jump target => { m with stack, pc := target, steps := m.steps + 1 }
  | .compare result =>
    { m with stack, comparison := result, pc := m.pc + 1, steps := m.steps + 1 }
  | .push value => { m with stack := stack.push value, pc := m.pc + 1, steps := m.steps + 1 }
  | .assign name value =>
    { m with stack, symbols := m.symbols.insert name value, pc := m.pc + 1, steps := m.steps + 1 }
  | .halt => { m with stack, halted := true, pc := m.code.size, steps := m.steps + 1 }

/-- Stops a machine at an instruction that failed and left this stack. -/
def stop (m : Machine) (stack : OperandStack) (i : Instruction) (e : ScriptError) : Machine :=
  { m with
    stack
    fault := some ⟨m.pc, i.opcode, e⟩
    halted := true
    pc := m.code.size
    steps := m.steps + 1 }

/-- Executes the next instruction. A script that has ended stays as it is. -/
def turn (m : Machine) : Turn :=
  match m.next? with
  | none => ⟨m, none⟩
  | some i =>
    match (m.resolve i).run ⟨m.stack, none⟩ with
    | .ok action s => ⟨m.perform s.stack action, s.call⟩
    | .error e s => ⟨m.stop s.stack i e, s.call⟩

def step (m : Machine) : Machine := m.turn.machine

/-- Steps until the script ends or `n` instructions have run. -/
def run : Nat → Machine → Machine
  | 0, m => m
  | n + 1, m => if m.isFinished then m else run n m.step

end Machine

end ScriptMachine
