import ScriptMachine.Value

/-!
# Operand locations

Where an operand is read from or written to, with the type it was declared as.
-/

namespace ScriptMachine

/-- Reads the name of an area in any letter case. -/
def MemoryArea.parse (text : String) : Except ScriptError MemoryArea :=
  match MemoryArea.all.find? fun area => area.name.toList = Text.uppercase text.toList with
  | some area => .ok area
  | none => .error (.unknownMemoryArea text)

inductive Location where
  /-- A value in the instruction itself. -/
  | immediate (value : Value)
  /-- The top of the operand stack. -/
  | stack (type : ValueType)
  /-- A named variable. -/
  | named (name : String) (type : ValueType)
  deriving DecidableEq

namespace Location

def area : Location → MemoryArea
  | immediate _ => .immediate
  | stack _ => .stack
  | named .. => .named

/-- The type an operand was declared as; a value in the instruction has its own. -/
def declaredType : Location → ValueType
  | immediate value => value.type
  | stack type => type
  | named _ type => type

def text : Location → String
  | immediate value => "#" ++ value.text
  | stack type => "[stack:" ++ type.name ++ "]"
  | named name type => name ++ ":" ++ type.name

/-- A location as it appears in diagnostics. -/
def inspect : Location → String
  | immediate value => Text.withPart "Immediate" value.inspect
  | stack type => Text.withPart "Stack" type.inspect
  | named name type =>
    Text.withFields "Variable" [("name", Text.quote name), ("ty", type.inspect)]

end Location

end ScriptMachine
