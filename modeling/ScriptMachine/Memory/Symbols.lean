import ScriptMachine.SortedMap
import ScriptMachine.Value

/-!
# Variables

Every variable is declared with a value, whose type fixes the variable's class. A store of another
class is refused and changes nothing.
-/

namespace ScriptMachine

/-- The variables of a script by name. -/
abbrev SymbolTable := SortedMap String Value

namespace SymbolTable

/-- Declares a variable, or declares it anew, and gives the value that it had before. -/
def declare (t : SymbolTable) (name : String) (value : Value) : SymbolTable × Option Value :=
  (t.insert name value, t.get? name)

def load (t : SymbolTable) (name : String) : Except ScriptError Value :=
  match t.get? name with
  | some value => .ok value
  | none => .error (.unknownVariable name)

/-- A value may be stored under a name that is declared with a value of the same type. -/
def admits (t : SymbolTable) (name : String) (value : Value) : Except ScriptError Unit :=
  match t.get? name with
  | none => .error (.unknownVariable name)
  | some current =>
    if current.type = value.type then .ok () else .error (.typeMismatch current.type value.type)

/-- Replaces the value of a declared variable by another of its class. -/
def store (t : SymbolTable) (name : String) (value : Value) : Except ScriptError SymbolTable := do
  t.admits name value
  return t.insert name value

end SymbolTable

end ScriptMachine
