import ScriptMachine.Document.LoadError

/-!
# From documents to programs

Names are looked up and literals converted to the declared types. The first error counts: symbols come
first, by name, and then the instructions, each with its opcode and operands from left to right.
-/

namespace ScriptMachine

/-- The CHAR of a text that is one character, below `U+10000`. -/
def charOf? (text : String) : Option Value :=
  match text.toList with
  | [c] => Value.ofChar? c
  | _ => none

/-- The value of a literal as a type, if it has one. Only VOID does without a literal. -/
def Literal.value? : ValueType → Option Literal → Option Value
  | .void, none => some .void
  | .boolean, some (.bool b) => some (.bool b)
  | .int, some (.int i) =>
    if -0x80000000 ≤ i.toInt ∧ i.toInt < 0x80000000 then some (.int (Int32.ofInt i.toInt)) else none
  | .double, some (.int i) => some (.double (Float.ofInt i.toInt))
  | .double, some (.double d) => some (.double d)
  | .char, some (.str text) => charOf? text
  | .string, some (.str text) => some (.str text)
  | .identifier, some (.str text) => some (.identifier text)
  | _, _ => none

namespace Component

/-- Reads a type name of this component. -/
def type (component : Component) (text : String) : Except LoadError ValueType :=
  match ValueType.parse text with
  | .ok type => .ok type
  | .error text => .error (.invalidLiteral component (.unknownType text))

/-- Converts a literal of this component. -/
def value (component : Component) (type : ValueType) (literal : Option Literal) :
    Except LoadError Value :=
  match Literal.value? type literal with
  | some value => .ok value
  | none => .error (.invalidLiteral component (.mismatch literal type))

/-- What an operand must have. -/
def need (component : Component) (flaw : Flaw) : Option α → Except LoadError α
  | some a => .ok a
  | none => .error (.invalidLiteral component flaw)

end Component

/-- A name of the instruction set in the instruction with this index. -/
def decoded (index : Nat) : Except ScriptError α → Except LoadError α
  | .ok a => .ok a
  | .error source => .error (.decode index source)

def RawSymbol.build (name : String) (raw : RawSymbol) : Except LoadError Value := do
  let type ← (Component.symbol name).type raw.type
  (Component.symbol name).value type raw.value

/-- An immediate operand without a type takes that of its literal; a literal or a name that the area
does not use is passed over. -/
def RawLocation.build (index : Nat) (raw : RawLocation) : Except LoadError Location := do
  let component := Component.instruction index
  let area ← decoded index (MemoryArea.parse raw.area)
  let type ← raw.type.mapM component.type
  match area with
  | .immediate =>
    let type ← component.need .untypedImmediate (type <|> raw.value.map Literal.naturalType)
    .immediate <$> component.value type raw.value
  | .stack => .stack <$> component.need .untypedStack type
  | .named =>
    let type ← component.need .untypedVariable type
    let name ← component.need .unnamedVariable raw.name
    return .named name type

def RawInstruction.build (index : Nat) (raw : RawInstruction) : Except LoadError Instruction := do
  let opcode ← decoded index (Opcode.parse raw.op)
  let first ← raw.first.mapM (RawLocation.build index)
  let second ← raw.second.mapM (RawLocation.build index)
  let target ← raw.target.mapM (RawLocation.build index)
  return { opcode, first, second, target }

namespace Document

/-- The values of symbols, in order. -/
def buildSymbols : List (String × RawSymbol) → Except LoadError (List (String × Value))
  | [] => .ok []
  | (name, raw) :: rest => do
    let value ← raw.build name
    let values ← buildSymbols rest
    return (name, value) :: values

/-- The instructions from an index on. -/
def buildInstructions (index : Nat) : List RawInstruction → Except LoadError (List Instruction)
  | [] => .ok []
  | raw :: rest => do
    let instruction ← raw.build index
    let instructions ← buildInstructions (index + 1) rest
    return instruction :: instructions

/-- The program that a document describes, or its first error. -/
def build (d : Document) : Except LoadError Program := do
  let symbols ← buildSymbols d.symbols.entries
  let instructions ← buildInstructions 0 d.instructions
  return { instructions, symbols := .ofList symbols }

end Document

end ScriptMachine
