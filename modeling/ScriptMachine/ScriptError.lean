import ScriptMachine.Opcode
import ScriptMachine.Operand
import ScriptMachine.Text.Diagnostic

/-!
# Script errors

Everything that can be wrong with a script, while its names are read and while it runs, with the
wording of each cause. A fault is a cause together with the instruction that met it.
-/

namespace ScriptMachine

inductive ScriptError where
  | unknownVariable (name : String)
  | stackUnderflow
  | typeMismatch (expected found : ValueType)
  | invalidType (type : ValueType)
  | invalidJumpTarget (target : Int) (length : Nat)
  | divisionByZero
  | unknownInstruction (text : String)
  | unknownMemoryArea (text : String)
  | invalidWriteTarget (area : MemoryArea)
  | missingOperand (slot : Slot)
  | invalidArity (arity : Int)
  | unknownFunction (name : String) (arity : Nat)
  | hostFunction (name message : String)
  deriving Repr, DecidableEq

namespace ScriptError

/-- The wording of an error. -/
def message : ScriptError → String
  | unknownVariable name => "unknown variable " ++ name
  | stackUnderflow => "stack underflow"
  | typeMismatch expected found =>
    "type mismatch: expected " ++ expected.name ++ ", found " ++ found.name
  | invalidType type => "invalid type " ++ type.name
  | invalidJumpTarget target length =>
    "invalid jump target " ++ toString target ++ " (program length " ++ toString length ++ ")"
  | divisionByZero => "division by zero"
  | unknownInstruction text => "unknown instruction " ++ text
  | unknownMemoryArea text => "unknown memory area " ++ text
  | invalidWriteTarget area => "cannot write to " ++ area.name ++ " memory"
  | missingOperand slot => "missing " ++ slot.name ++ " operand"
  | invalidArity arity => "invalid argument count " ++ toString arity
  | unknownFunction name arity => "no host function " ++ name ++ "/" ++ toString arity
  | hostFunction name message => "host function " ++ name ++ " failed: " ++ message

/-- The kind of an error. -/
def kind : ScriptError → String
  | unknownVariable _ => "UnknownVariable"
  | stackUnderflow => "StackUnderflow"
  | typeMismatch .. => "TypeMismatch"
  | invalidType _ => "InvalidType"
  | invalidJumpTarget .. => "InvalidJumpTarget"
  | divisionByZero => "DivisionByZero"
  | unknownInstruction _ => "UnknownInstruction"
  | unknownMemoryArea _ => "UnknownMemoryArea"
  | invalidWriteTarget _ => "InvalidWriteTarget"
  | missingOperand _ => "MissingOperand"
  | invalidArity _ => "InvalidArity"
  | unknownFunction .. => "UnknownFunction"
  | hostFunction .. => "HostFunction"

/-- An error as it appears in diagnostics. -/
def inspect (error : ScriptError) : String :=
  match error with
  | unknownVariable text | unknownInstruction text | unknownMemoryArea text =>
    Text.withPart error.kind (Text.quote text)
  | stackUnderflow | divisionByZero => error.kind
  | typeMismatch expected found =>
    Text.withFields error.kind [("expected", expected.inspect), ("found", found.inspect)]
  | invalidType type => Text.withPart error.kind type.inspect
  | invalidJumpTarget target length =>
    Text.withFields error.kind [("target", toString target), ("len", toString length)]
  | invalidWriteTarget area => Text.withPart error.kind area.inspect
  | missingOperand slot => Text.withFields error.kind [("slot", slot.inspect)]
  | invalidArity arity => Text.withPart error.kind (toString arity)
  | unknownFunction name arity =>
    Text.withFields error.kind [("name", Text.quote name), ("arity", toString arity)]
  | hostFunction name message =>
    Text.withFields error.kind [("name", Text.quote name), ("message", Text.quote message)]

end ScriptError

/-- What stopped a script, and at which instruction. -/
structure Fault where
  pc : Nat
  opcode : Opcode
  error : ScriptError
  deriving Repr, DecidableEq

namespace Fault

def text (fault : Fault) : String :=
  fault.opcode.mnemonic ++ " at pc " ++ toString fault.pc ++ ": " ++ fault.error.message

def inspect (fault : Fault) : String :=
  Text.withFields "Fault"
    [("pc", toString fault.pc), ("opcode", fault.opcode.inspect), ("error", fault.error.inspect)]

end Fault

end ScriptMachine
