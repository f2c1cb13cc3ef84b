import ScriptMachine.Location
import ScriptMachine.Memory.Symbols
import ScriptMachine.Text.Blank

/-!
# Instructions and programs
-/

namespace ScriptMachine

/-- Reads a mnemonic in any letter case, between blanks. -/
def Opcode.parse (text : String) : Except ScriptError Opcode :=
  let name := Text.uppercase (Text.trimBlanks text.toList)
  match all.find? fun op => op.mnemonic.toList = name with
  | some op => .ok op
  | none => .error (.unknownInstruction text)

/-- An opcode with up to three operands. -/
structure Instruction where
  opcode : Opcode
  first : Option Location := none
  second : Option Location := none
  target : Option Location := none
  deriving DecidableEq

namespace Instruction

/-- An instruction that combines two operands into a third. -/
def binary (opcode : Opcode) (first second target : Location) : Instruction :=
  ⟨opcode, some first, some second, some target⟩

/-- A jump to an instruction by its index. -/
def jump (condition : Condition) (index : Int32) : Instruction :=
  ⟨.jump condition, none, none, some (.immediate (.int index))⟩

def compare (first second : Location) : Instruction :=
  ⟨.cmp, some first, some second, none⟩

def operand (i : Instruction) : Slot → Option Location
  | .first => i.first
  | .second => i.second
  | .target => i.target

/-- The operands that are present, in order. -/
def operands (i : Instruction) : List Location :=
  [i.first, i.second, i.target].filterMap id

def text (i : Instruction) : String :=
  match i.operands with
  | [] => i.opcode.mnemonic
  | operands => i.opcode.mnemonic ++ " " ++ ", ".intercalate (operands.map Location.text)

/-- An instruction with its index, as listings and traces show it. -/
def listed (index : Nat) (i : Instruction) : String :=
  "[" ++ Text.decimal 4 index ++ "] " ++ i.text

end Instruction

/-- Instructions and the variables they start with. -/
structure Program where
  instructions : List Instruction := []
  symbols : SymbolTable := .empty
  deriving DecidableEq

namespace Program

def declare (p : Program) (name : String) (value : Value) : Program :=
  { p with symbols := p.symbols.insert name value }

def push (p : Program) (i : Instruction) : Program :=
  { p with instructions := p.instructions ++ [i] }

def size (p : Program) : Nat := p.instructions.length

/-- A listing: the variables by name, then the numbered instructions. -/
def text (p : Program) : String :=
  String.join (p.symbols.entries.map fun e => "  .var " ++ e.1 ++ " = " ++ e.2.text ++ "\n") ++
    String.join (p.instructions.mapIdx fun index i => "  " ++ i.listed index ++ "\n")

end Program

end ScriptMachine
