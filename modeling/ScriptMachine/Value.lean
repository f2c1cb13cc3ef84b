import ScriptMachine.Number.Decimal
import ScriptMachine.ScriptError

/-!
# Values

The values that scripts compute with, the numeric views that widen CHAR to INT and INT to DOUBLE,
and the texts of values.
-/

namespace ScriptMachine

/-- A value. A CHAR is one UTF-16 code unit and an INT has thirty-two bits. -/
inductive Value where
  | bool (b : Bool)
  | char (unit : UInt16)
  | int (i : Int32)
  | double (d : Float)
  | str (text : String)
  | identifier (name : String)
  | void
  deriving DecidableEq

namespace Value

def type : Value → ValueType
  | bool _ => .boolean
  | char _ => .char
  | int _ => .int
  | double _ => .double
  | str _ => .string
  | identifier _ => .identifier
  | void => .void

/-- The CHAR of a character that fits in one code unit. -/
def ofChar? (c : Char) : Option Value :=
  if c.toNat < 0x10000 then some (char (UInt16.ofNat c.toNat)) else none

/-! ## Views -/

def asBool? : Value → Option Bool
  | bool b => some b
  | _ => none

def asChar? : Value → Option UInt16
  | char unit => some unit
  | _ => none

/-- A CHAR counts as the number of its code unit. -/
def asInt? : Value → Option Int32
  | char unit => some (Int32.ofNat unit.toNat)
  | int i => some i
  | _ => none

/-- A CHAR or an INT counts as the equal double. -/
def asDouble? : Value → Option Float
  | char unit => some (Number.ofSmallInt unit.toNat)
  | int i => some (Number.ofSmallInt i.toInt)
  | double d => some d
  | _ => none

/-- The name that a STRING or an IDENTIFIER carries. -/
def asName? : Value → Option String
  | str text => some text
  | identifier name => some name
  | _ => none

/-- Equality of values of one class, doubles as numbers: both zeros are equal and what is not a number
equals nothing. -/
def equal : Value → Value → Bool
  | double x, double y => Number.order x y == some .eq
  | v, w => decide (v = w)

/-! ## Texts -/

def boolText (b : Bool) : String := if b then "true" else "false"

/-- A code unit between single quotes; a surrogate is spelled by number. -/
def charText (unit : UInt16) : String :=
  let n := unit.toNat
  if 0xD800 ≤ n && n ≤ 0xDFFF then "'\\u\x7b" ++ Text.hex 4 n ++ "\x7d'"
  else "'" ++ (Char.ofNat n).toString ++ "'"

/-- A value as scripts print it. -/
def text : Value → String
  | bool b => boolText b
  | char unit => charText unit
  | int i => toString i.toInt
  | double d => Number.plainLayout.text d
  | str text => Text.quote text
  | identifier name => name
  | void => "void"

/-- A value as it appears in diagnostics. -/
def inspect : Value → String
  | bool b => Text.withPart "Bool" (boolText b)
  | char unit => Text.withPart "Char" (toString unit.toNat)
  | int i => Text.withPart "Int" (toString i.toInt)
  | double d => Text.withPart "Double" (Number.scientificLayout.text d)
  | str text => Text.withPart "Str" (Text.quote text)
  | identifier name => Text.withPart "Identifier" (Text.quote name)
  | void => "Void"

end Value

/-- An operand declared as `found` may be used where `required` is asked for. STRING takes even the
types that no other operand can have. -/
def ValueType.check (required found : ValueType) : Except ScriptError Unit :=
  if required = .string then .ok ()
  else if !found.isConcrete then .error (.invalidType found)
  else if found ∈ required.accepts then .ok ()
  else .error (.typeMismatch required found)

end ScriptMachine
