/-!
# Operand slots and memory areas

An instruction has three slots for operands, and an operand lives in one of three areas.
-/

namespace ScriptMachine

/-- Where an operand lives: in the instruction, on the stack, or in a named variable. -/
inductive MemoryArea where
  | immediate
  | stack
  | named
  deriving Repr, DecidableEq

/-- An operand slot of an instruction. -/
inductive Slot where
  | first
  | second
  | target
  deriving Repr, DecidableEq

namespace MemoryArea

def all : List MemoryArea := [immediate, stack, named]

def name : MemoryArea → String
  | immediate => "IMMEDIATE"
  | stack => "STACK"
  | named => "VARIABLE"

def inspect : MemoryArea → String
  | immediate => "Immediate"
  | stack => "Stack"
  | named => "Variable"

end MemoryArea

namespace Slot

def name : Slot → String
  | first => "first"
  | second => "second"
  | target => "target"

def inspect : Slot → String
  | first => "First"
  | second => "Second"
  | target => "Target"

end Slot

end ScriptMachine
