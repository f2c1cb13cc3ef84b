import ScriptMachine.Value

/-!
# Arithmetic and comparison

Each family widens both operands to its own type before it computes. Words wrap around; division is
toward zero, and by zero an error except for doubles.
-/

namespace ScriptMachine

/-- The quotient or remainder, unless the divisor is zero. -/
def nonzero [OfNat α 0] [DecidableEq α] (divisor : α) (result : α) : Option α :=
  if divisor = 0 then none else some result

namespace Operator

/-- On code units, modulo `2 ^ 16`; nothing on division by zero. -/
def onChar (op : Operator) (a b : UInt16) : Option UInt16 :=
  match op with
  | add => some (a + b)
  | sub => some (a - b)
  | mul => some (a * b)
  | div => nonzero b (a / b)
  | mod => nonzero b (a % b)

/-- On integers, modulo `2 ^ 32`; nothing on division by zero. The least integer divided by minus one
wraps around to itself. -/
def onInt (op : Operator) (a b : Int32) : Option Int32 :=
  match op with
  | add => some (a + b)
  | sub => some (a - b)
  | mul => some (a * b)
  | div => nonzero b (a / b)
  | mod => nonzero b (a % b)

def onDouble (op : Operator) (a b : Float) : Float :=
  match op with
  | add => a + b
  | sub => a - b
  | mul => a * b
  | div => a / b
  | mod => Number.remainder a b

end Operator

namespace Family

/-- A view of an operand, or the mismatch with the family's type. -/
def view (family : Family) (as? : Value → Option α) (value : Value) : Except ScriptError α :=
  match as? value with
  | some a => .ok a
  | none => .error (.typeMismatch family.required value.type)

/-- A result of division, or the error that division by zero is. -/
def quotient : Option α → Except ScriptError α
  | some a => .ok a
  | none => .error .divisionByZero

/-- Applies an operator. Both operands are viewed, the left one first, before anything is
computed. -/
def apply (family : Family) (op : Operator) (lhs rhs : Value) : Except ScriptError Value := do
  match family with
  | char =>
    let a ← family.view Value.asChar? lhs
    let b ← family.view Value.asChar? rhs
    .char <$> quotient (op.onChar a b)
  | int =>
    let a ← family.view Value.asInt? lhs
    let b ← family.view Value.asInt? rhs
    .int <$> quotient (op.onInt a b)
  | double =>
    let a ← family.view Value.asDouble? lhs
    let b ← family.view Value.asDouble? rhs
    .ok (.double (op.onDouble a b))

end Family

/-! ## Comparison -/

/-- An order as a number: -1, 0 or 1. -/
def sign : Ordering → Int
  | .lt => -1
  | .eq => 0
  | .gt => 1

/-- Compares two values: -1, 0 or 1. Numbers compare across families, as integers when neither is a
DOUBLE; what is not a number gives 1. Booleans order `false` before `true`, and texts by their code
points. -/
def Value.compare (lhs rhs : Value) : Except ScriptError Int :=
  if !lhs.type.isConcrete then .error (.invalidType lhs.type)
  else if !rhs.type.isConcrete then .error (.invalidType rhs.type)
  else
    match lhs, rhs with
    | .bool a, .bool b => .ok (sign (Ord.compare a b))
    | .str a, .str b => .ok (sign (Ord.compare a b))
    | _, _ =>
      match lhs.asInt?, rhs.asInt? with
      | some a, some b => .ok (sign (Ord.compare a.toInt b.toInt))
      | _, _ =>
        match lhs.asDouble?, rhs.asDouble? with
        | some a, some b =>
          match Number.order a b with
          | some o => .ok (sign o)
          | none => .ok 1
        | _, _ => .error (.typeMismatch lhs.type rhs.type)

end ScriptMachine
