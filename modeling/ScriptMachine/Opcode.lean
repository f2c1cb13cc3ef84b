import ScriptMachine.ValueType

/-!
# Opcodes

What an opcode has a machine do is looked up in tables: the operator and the numeric family of those
that compute, and the condition of those that jump.
-/

namespace ScriptMachine

/-- The numeric type that an arithmetic opcode works in. -/
inductive Family where
  | char
  | int
  | double
  deriving Repr, DecidableEq

inductive Operator where
  | add
  | sub
  | mul
  | div
  | mod
  deriving Repr, DecidableEq

/-- When a jump is taken, by the sign of the last comparison. -/
inductive Condition where
  | always
  | equal
  | notEqual
  | less
  | lessOrEqual
  | greater
  | greaterOrEqual
  deriving Repr, DecidableEq

inductive Opcode where
  | addChar
  | addDouble
  | addInt
  | and
  | arrayAccess
  | call
  | cmp
  | concatString
  | divChar
  | divDouble
  | divInt
  | fieldAccess
  | halt
  | jeq
  | jge
  | jgt
  | jle
  | jlt
  | jmp
  | jne
  | modChar
  | modDouble
  | modInt
  | mov
  | mulChar
  | mulDouble
  | mulInt
  | nop
  | not
  | or
  | subChar
  | subDouble
  | subInt
  deriving Repr, DecidableEq

/-- The type that operands of a family must be usable as, and that its results have. -/
def Family.required : Family → ValueType
  | char => .char
  | int => .int
  | double => .double

def Family.name (family : Family) : String := family.required.name

def Operator.name : Operator → String
  | add => "ADD"
  | sub => "SUB"
  | mul => "MUL"
  | div => "DIV"
  | mod => "MOD"

/-- The condition holds of a comparison result. -/
def Condition.holds : Condition → Int → Bool
  | always, _ => true
  | equal, c => c == 0
  | notEqual, c => c != 0
  | less, c => c < 0
  | lessOrEqual, c => c ≤ 0
  | greater, c => 0 < c
  | greaterOrEqual, c => 0 ≤ c

namespace Opcode

/-- Every opcode, by mnemonic. -/
def all : List Opcode := [
  addChar, addDouble, addInt, and, arrayAccess, call, cmp, concatString, divChar, divDouble, divInt,
  fieldAccess, halt, jeq, jge, jgt, jle, jlt, jmp, jne, modChar, modDouble, modInt, mov, mulChar,
  mulDouble, mulInt, nop, not, or, subChar, subDouble, subInt]

def mnemonic : Opcode → String
  | addChar => "ADD_CHAR"
  | addDouble => "ADD_DOUBLE"
  | addInt => "ADD_INT"
  | and => "AND"
  | arrayAccess => "ARRAY_ACCESS"
  | call => "CALL"
  | cmp => "CMP"
  | concatString => "CONCAT_STRING"
  | divChar => "DIV_CHAR"
  | divDouble => "DIV_DOUBLE"
  | divInt => "DIV_INT"
  | fieldAccess => "FIELD_ACCESS"
  | halt => "HALT"
  | jeq => "JEQ"
  | jge => "JGE"
  | jgt => "JGT"
  | jle => "JLE"
  | jlt => "JLT"
  | jmp => "JMP"
  | jne => "JNE"
  | modChar => "MOD_CHAR"
  | modDouble => "MOD_DOUBLE"
  | modInt => "MOD_INT"
  | mov => "MOV"
  | mulChar => "MUL_CHAR"
  | mulDouble => "MUL_DOUBLE"
  | mulInt => "MUL_INT"
  | nop => "NOP"
  | not => "NOT"
  | or => "OR"
  | subChar => "SUB_CHAR"
  | subDouble => "SUB_DOUBLE"
  | subInt => "SUB_INT"

/-- The opcode as it appears in diagnostics. -/
def inspect : Opcode → String
  | addChar => "AddChar"
  | addDouble => "AddDouble"
  | addInt => "AddInt"
  | and => "And"
  | arrayAccess => "ArrayAccess"
  | call => "Call"
  | cmp => "Cmp"
  | concatString => "ConcatString"
  | divChar => "DivChar"
  | divDouble => "DivDouble"
  | divInt => "DivInt"
  | fieldAccess => "FieldAccess"
  | halt => "Halt"
  | jeq => "Jeq"
  | jge => "Jge"
  | jgt => "Jgt"
  | jle => "Jle"
  | jlt => "Jlt"
  | jmp => "Jmp"
  | jne => "Jne"
  | modChar => "ModChar"
  | modDouble => "ModDouble"
  | modInt => "ModInt"
  | mov => "Mov"
  | mulChar => "MulChar"
  | mulDouble => "MulDouble"
  | mulInt => "MulInt"
  | nop => "Nop"
  | not => "Not"
  | or => "Or"
  | subChar => "SubChar"
  | subDouble => "SubDouble"
  | subInt => "SubInt"

/-! ## What opcodes mean -/

/-- The family and the operator of an opcode that computes. -/
def arithmetic? : Opcode → Option (Family × Operator)
  | addChar => some (.char, .add)
  | subChar => some (.char, .sub)
  | mulChar => some (.char, .mul)
  | divChar => some (.char, .div)
  | modChar => some (.char, .mod)
  | addInt => some (.int, .add)
  | subInt => some (.int, .sub)
  | mulInt => some (.int, .mul)
  | divInt => some (.int, .div)
  | modInt => some (.int, .mod)
  | addDouble => some (.double, .add)
  | subDouble => some (.double, .sub)
  | mulDouble => some (.double, .mul)
  | divDouble => some (.double, .div)
  | modDouble => some (.double, .mod)
  | _ => none

/-- The condition of an opcode that jumps. -/
def condition? : Opcode → Option Condition
  | jmp => some .always
  | jeq => some .equal
  | jne => some .notEqual
  | jlt => some .less
  | jle => some .lessOrEqual
  | jgt => some .greater
  | jge => some .greaterOrEqual
  | _ => none

/-- The opcode is accepted and does nothing yet. -/
def isReserved : Opcode → Bool
  | and => true
  | or => true
  | not => true
  | arrayAccess => true
  | fieldAccess => true
  | concatString => true
  | mov => true
  | _ => false

/-- The opcode of an operator in a family. -/
def arithmetic : Operator → Family → Opcode
  | .add, .char => addChar
  | .add, .int => addInt
  | .add, .double => addDouble
  | .sub, .char => subChar
  | .sub, .int => subInt
  | .sub, .double => subDouble
  | .mul, .char => mulChar
  | .mul, .int => mulInt
  | .mul, .double => mulDouble
  | .div, .char => divChar
  | .div, .int => divInt
  | .div, .double => divDouble
  | .mod, .char => modChar
  | .mod, .int => modInt
  | .mod, .double => modDouble

/-- The opcode of the jump on a condition. -/
def jump : Condition → Opcode
  | .always => jmp
  | .equal => jeq
  | .notEqual => jne
  | .less => jlt
  | .lessOrEqual => jle
  | .greater => jgt
  | .greaterOrEqual => jge

end Opcode

end ScriptMachine
