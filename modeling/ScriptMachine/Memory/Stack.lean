import ScriptMachine.Value

/-!
# The operand stack
-/

namespace ScriptMachine

/-- A stack of values, the top one first. -/
structure OperandStack where
  items : List Value
  deriving DecidableEq

namespace OperandStack

def empty : OperandStack := ⟨[]⟩

def push (s : OperandStack) (v : Value) : OperandStack := ⟨v :: s.items⟩

/-- The top value and the stack below it. -/
def pop (s : OperandStack) : Except ScriptError (Value × OperandStack) :=
  match s.items with
  | [] => .error .stackUnderflow
  | v :: rest => .ok (v, ⟨rest⟩)

def peek? (s : OperandStack) : Option Value := s.items.head?

def size (s : OperandStack) : Nat := s.items.length

def isEmpty (s : OperandStack) : Bool := s.items.isEmpty

/-- The values from bottom to top. -/
def toList (s : OperandStack) : List Value := s.items.reverse

@[simp] theorem toList_empty : empty.toList = [] := rfl

@[simp] theorem toList_push (s : OperandStack) (v : Value) : (s.push v).toList = s.toList ++ [v] := by
  simp [toList, push]

theorem pop_push (s : OperandStack) (v : Value) : (s.push v).pop = .ok (v, s) := rfl

end OperandStack

end ScriptMachine
