import ScriptMachine.Text.Uppercase

/-!
# Value types

The seven type tags, the sets of types that an operand slot accepts, and the reading of type names.
-/

namespace ScriptMachine

/-- The type tag of a value. -/
inductive ValueType where
  | boolean
  | char
  | int
  | double
  | string
  | identifier
  | void
  deriving Repr, DecidableEq

namespace ValueType

def all : List ValueType := [boolean, char, int, double, string, identifier, void]

def name : ValueType → String
  | boolean => "BOOLEAN"
  | char => "CHAR"
  | int => "INT"
  | double => "DOUBLE"
  | string => "STRING"
  | identifier => "IDENTIFIER"
  | void => "VOID"

/-- The tag as it appears in diagnostics. -/
def inspect : ValueType → String
  | boolean => "Boolean"
  | char => "Char"
  | int => "Int"
  | double => "Double"
  | string => "String"
  | identifier => "Identifier"
  | void => "Void"

/-- The place of a type in a set of types. -/
def bit : ValueType → Nat
  | boolean => 0x01
  | char => 0x02
  | int => 0x04
  | double => 0x08
  | string => 0x10
  | identifier => 0x20
  | void => 0x40

/-- The types of operands usable where a type is required. CHAR widens to INT and INT to DOUBLE;
every value has a text, so STRING takes them all. -/
def accepts : ValueType → List ValueType
  | boolean => [boolean]
  | char => [char]
  | int => [char, int]
  | double => [char, int, double]
  | string => all
  | identifier => []
  | void => []

/-- A set of types as the sum of its places. -/
def setBits (types : List ValueType) : Nat := types.foldl (fun n t => n ||| t.bit) 0

/-- Types that an operand can have at all. -/
def isConcrete : ValueType → Bool
  | identifier => false
  | void => false
  | _ => true

def isNumeric : ValueType → Bool
  | char => true
  | int => true
  | double => true
  | _ => false

/-- Reads a type name in any letter case; `BOOL` is short for `BOOLEAN`. A text that names no type
is handed back. -/
def parse (text : String) : Except String ValueType :=
  let name := Text.uppercase text.toList
  if name = "BOOL".toList then .ok boolean
  else
    match all.find? fun t => t.name.toList = name with
    | some t => .ok t
    | none => .error text

end ValueType

end ScriptMachine
