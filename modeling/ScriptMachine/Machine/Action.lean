import ScriptMachine.Machine.Basic

/-!
# From an instruction to an action

Executing an instruction has two parts. Resolving it reads its operands, calls the host if it has to,
and either fails or settles on an action; on the way it touches nothing but the operand stack.
Performing the action then cannot fail. So an instruction that fails leaves variables and the
comparison as they were, and of the stack only what it popped is gone.
-/

namespace ScriptMachine

/-- What an instruction does once its operands are known to be in order. -/
inductive Action where
  | advance
  | jump (target : Nat)
  | compare (result : Int)
  | push (value : Value)
  | assign (name : String) (value : Value)
  | halt

/-- What resolving an instruction changes: it pops operands, and may call one host function. -/
structure Scratch where
  stack : OperandStack
  call : Option HostCall := none

/-- A step of resolving an instruction. What was popped before a failure stays popped. -/
abbrev Resolve := EStateM ScriptError Scratch

namespace Resolve

def lift : Except ScriptError α → Resolve α
  | .ok a => pure a
  | .error e => throw e

def pop : Resolve Value := fun s =>
  match s.stack.pop with
  | .ok (v, rest) => .ok v { s with stack := rest }
  | .error e => .error e s

/-- Pops as many values as a function has arguments. The last argument is on top. -/
def popArguments : Nat → List Value → Resolve (List Value)
  | 0, later => pure later
  | n + 1, later => do
    let v ← pop
    popArguments n (v :: later)

def operand (i : Instruction) (slot : Slot) : Resolve Location :=
  match i.operand slot with
  | some location => pure location
  | none => throw (.missingOperand slot)

/-- Reads an operand; one on the stack is popped. -/
def read (symbols : SymbolTable) : Location → Resolve Value
  | .immediate value => pure value
  | .stack _ => pop
  | .named name _ => lift (symbols.load name)

/-- The action that writes a value to a location. -/
def write (symbols : SymbolTable) (value : Value) : Location → Resolve Action
  | .immediate _ => throw (.invalidWriteTarget .immediate)
  | .stack _ => pure (.push value)
  | .named name _ => do
    lift (symbols.admits name value)
    return .assign name value

/-- A view of a value, or the mismatch with the type that was wanted. -/
def view (wanted : ValueType) (as? : Value → Option α) (value : Value) : Resolve α :=
  match as? value with
  | some a => pure a
  | none => throw (.typeMismatch wanted value.type)

/-- What a table has for an opcode. One that it lacks is no instruction. -/
def entry (table : Opcode → Option α) (opcode : Opcode) : Resolve α :=
  match table opcode with
  | some a => pure a
  | none => throw (.unknownInstruction opcode.mnemonic)

/-- Both operands are read before their declared types are checked. -/
def arithmetic (symbols : SymbolTable) (op : Operator) (family : Family) (i : Instruction) :
    Resolve Action := do
  let first ← operand i .first
  let second ← operand i .second
  let target ← operand i .target
  let lhs ← read symbols first
  let rhs ← read symbols second
  lift (family.required.check first.declaredType)
  lift (family.required.check second.declaredType)
  let result ← lift (family.apply op lhs rhs)
  write symbols result target

/-- The target is checked whether or not the jump is taken. The end of the program is a target. -/
def jump (m : Machine) (condition : Condition) (i : Instruction) : Resolve Action := do
  let location ← operand i .target
  lift (ValueType.int.check location.declaredType)
  let value ← read m.symbols location
  let index ← view .int Value.asInt? value
  if 0 ≤ index.toInt ∧ index.toInt ≤ m.code.size then
    return if condition.holds m.comparison then .jump index.toInt.toNat else .advance
  else throw (.invalidJumpTarget index.toInt m.code.size)

def compare (symbols : SymbolTable) (i : Instruction) : Resolve Action := do
  let first ← operand i .first
  let second ← operand i .second
  let lhs ← read symbols first
  let rhs ← read symbols second
  let result ← lift (lhs.compare rhs)
  return .compare result

/-- Calls a host function and keeps the call. -/
def invoke (s : Signature) (f : HostFunction) (arguments : List Value) : Resolve Value := do
  let reply := f arguments
  modify fun scratch => { scratch with call := some ⟨s, arguments, reply⟩ }
  match reply.result with
  | .ok value => return value
  | .error failure => throw (.hostFunction s.name failure.message)

/-- Where the result of a call goes: nowhere if it is void or nobody asks for it. -/
def deliver (symbols : SymbolTable) (result : Value) (target : Option Location) : Resolve Action :=
  match result, target with
  | .void, _ => return .advance
  | _, none => return .advance
  | result, some location => write symbols result location

/-- The first operand names the function and the second gives the number of its arguments, which lie
on the stack. Without host functions a call does nothing. -/
def call (m : Machine) (i : Instruction) : Resolve Action := do
  match m.functions with
  | none => return .advance
  | some registry =>
    let nameLocation ← operand i .first
    let nameValue ← read m.symbols nameLocation
    let name ← view .identifier Value.asName? nameValue
    let arityLocation ← operand i .second
    let arityValue ← read m.symbols arityLocation
    let arity ← view .int Value.asInt? arityValue
    if arity.toInt < 0 then throw (.invalidArity arity.toInt)
    let signature : Signature := ⟨name, arity.toInt.toNat⟩
    match registry.lookup signature with
    | none => throw (.unknownFunction name signature.arity)
    | some f =>
      let arguments ← popArguments signature.arity []
      let result ← invoke signature f arguments
      deliver m.symbols result i.target

end Resolve

/-- What an instruction is to do. -/
def Machine.resolve (m : Machine) (i : Instruction) : Resolve Action :=
  match i.opcode with
  | .addChar | .addDouble | .addInt | .subChar | .subDouble | .subInt | .mulChar | .mulDouble | .mulInt
  | .divChar | .divDouble | .divInt | .modChar | .modDouble | .modInt => do
    let (family, op) ← Resolve.entry Opcode.arithmetic? i.opcode
    Resolve.arithmetic m.symbols op family i
  | .jmp | .jeq | .jne | .jlt | .jle | .jgt | .jge => do
    let condition ← Resolve.entry Opcode.condition? i.opcode
    Resolve.jump m condition i
  | .cmp => Resolve.compare m.symbols i
  | .call => Resolve.call m i
  | .halt => return .halt
  | .nop => return .advance
  | .and | .or | .not | .arrayAccess | .fieldAccess | .concatString | .mov => return .advance

end ScriptMachine
