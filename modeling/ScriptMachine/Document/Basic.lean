import ScriptMachine.Program

/-!
# Program documents

A program as a compiler writes it: names and literals that are still text. A document is well shaped
but need not make sense yet.
-/

namespace ScriptMachine

/-- A literal of a document. -/
inductive Literal where
  | bool (b : Bool)
  | int (i : Int64)
  | double (d : Float)
  | str (text : String)
  deriving DecidableEq

structure RawLocation where
  area : String
  type : Option String := none
  value : Option Literal := none
  name : Option String := none
  deriving DecidableEq

structure RawInstruction where
  op : String
  first : Option RawLocation := none
  second : Option RawLocation := none
  target : Option RawLocation := none
  deriving DecidableEq

structure RawSymbol where
  type : String
  value : Option Literal := none
  deriving DecidableEq

structure Document where
  symbols : SortedMap String RawSymbol := .empty
  instructions : List RawInstruction := []
  deriving DecidableEq

namespace Literal

/-- The type that a literal has without a declaration. -/
def naturalType : Literal → ValueType
  | bool _ => .boolean
  | int _ => .int
  | double _ => .double
  | str _ => .string

def inspect : Literal → String
  | bool b => (Value.bool b).inspect
  | int i => Text.withPart "Int" (toString i.toInt)
  | double d => (Value.double d).inspect
  | str text => (Value.str text).inspect

/-- A literal that may be missing, as it appears in messages. -/
def inspectOption : Option Literal → String
  | some literal => Text.withPart "Some" literal.inspect
  | none => "None"

end Literal

end ScriptMachine
