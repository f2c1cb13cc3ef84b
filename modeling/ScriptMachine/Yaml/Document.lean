import ScriptMachine.Document.Basic
import ScriptMachine.Yaml.Node

/-!
# Documents in YAML

Where a text is wanted any scalar counts as its text. What a literal is depends on how a plain scalar
looks; a quoted scalar is always a text. A part that is left empty has no members.
-/

namespace ScriptMachine.Yaml

/-! ## Plain scalars as values -/

def isNull (text : String) : Bool := text ∈ ["", "~", "null", "Null", "NULL"]

def bool? (text : String) : Option Bool :=
  if text ∈ ["true", "True", "TRUE"] then some true
  else if text ∈ ["false", "False", "FALSE"] then some false
  else none

/-- Digits in a base, at least one. -/
def magnitude? (base : Nat) (digits : List Char) : Option Nat :=
  if digits.isEmpty then none else Number.digitsValue? base digits

/-- An unsigned integer: decimal without leading zeros, or with a mark of its base. -/
def unsigned? (cs : List Char) : Option Nat :=
  match cs with
  | '0' :: 'x' :: digits => magnitude? 16 digits
  | '0' :: 'o' :: digits => magnitude? 8 digits
  | '0' :: 'b' :: digits => magnitude? 2 digits
  | '0' :: _ :: _ => none
  | digits => magnitude? 10 digits

/-- An integer with an optional sign. -/
def integer? : List Char → Option Int
  | '-' :: cs => (unsigned? cs).map fun n => -(n : Int)
  | '+' :: cs => (unsigned? cs).map fun n => (n : Int)
  | cs => (unsigned? cs).map fun n => (n : Int)

/-- A decimal with an optional sign, digits on one side of a point at least, and an optional
exponent. -/
def decimal? (cs : List Char) : Option Number.Decimal := do
  let (negative, cs) := match cs with
    | '-' :: cs => (true, cs)
    | '+' :: cs => (false, cs)
    | cs => (false, cs)
  let whole := cs.takeWhile Char.isDigit
  let (fraction, cs) := match cs.dropWhile Char.isDigit with
    | '.' :: cs => (cs.takeWhile Char.isDigit, cs.dropWhile Char.isDigit)
    | cs => ([], cs)
  guard (!(whole.isEmpty && fraction.isEmpty))
  let exponent ← match cs with
    | [] => some 0
    | 'e' :: cs => Number.exponent? cs
    | 'E' :: cs => Number.exponent? cs
    | _ => none
  let digits ← Number.digitsValue? 10 (whole ++ fraction)
  return ⟨negative, digits, exponent - fraction.length⟩

/-- Digits with a leading zero are no number. -/
def isZeroPadded (cs : List Char) : Bool :=
  let digits := match cs with
    | '-' :: cs => cs
    | '+' :: cs => cs
    | cs => cs
  1 < digits.length && digits.head? == some '0' && digits.all Char.isDigit

/-- A double: infinite, not a number, or a decimal in range. -/
def double? (text : String) : Option Float :=
  if text ∈ [".inf", ".Inf", ".INF", "+.inf", "+.Inf", "+.INF"] then
    some Number.infinity
  else if text ∈ ["-.inf", "-.Inf", "-.INF"] then some (-Number.infinity)
  else if text ∈ [".nan", ".NaN", ".NAN"] then some Number.notANumber
  else if isZeroPadded text.toList then none
  else
    match decimal? text.toList with
    | some d => if Number.isInfinite d.nearest then none else some d.nearest
    | none => none

/-- What an integer is as a literal. -/
inductive IntegerRange where
  /-- It has 64 bits with a sign. -/
  | word (i : Int64)
  /-- It has 64 bits without a sign, and counts as a double. -/
  | large (d : Float)
  /-- It has up to 128 bits and is refused. -/
  | wide
  /-- It is no integer any more. -/
  | beyond

/-- An integer has this many bits with a sign. -/
def isSigned (bits : Nat) (i : Int) : Bool :=
  -(Nat.pow 2 (bits - 1) : Int) ≤ i && i < (Nat.pow 2 (bits - 1) : Int)

/-- An integer has this many bits without a sign. -/
def isUnsigned (bits : Nat) (i : Int) : Bool := 0 ≤ i && i < (Nat.pow 2 bits : Int)

def IntegerRange.of (i : Int) : IntegerRange :=
  if isSigned 64 i then .word (Int64.ofInt i)
  else if isUnsigned 64 i then .large (Float.ofInt i)
  else if isSigned 128 i || isUnsigned 128 i then .wide
  else .beyond

/-- The literal of a plain scalar that is not null. -/
def plainLiteral? (text : String) : Option Literal :=
  let other :=
    match double? text with
    | some d => .double d
    | none => .str text
  match bool? text with
  | some b => some (.bool b)
  | none =>
    match (integer? text.toList).map IntegerRange.of with
    | some (.word i) => some (.int i)
    | some (.large d) => some (.double d)
    | some .wide => none
    | some .beyond => some other
    | none => some other

/-! ## Parts of a document -/

/-- The value of a member, if it is there; nothing at all when it is there more than once. -/
def member? (members : List (String × Node)) (name : String) : Option (Option Node) :=
  match members.filter fun m => m.1 == name with
  | [] => some none
  | [m] => some (some m.2)
  | _ => none

namespace Node

def text? : Node → Option String
  | scalar _ text => some text
  | _ => none

/-- The members of a mapping whose keys are scalars. -/
def members? : Node → Option (List (String × Node))
  | mapping entries => entries.mapM fun e => do return (← e.1.text?, e.2)
  | scalar true "" => some []
  | _ => none

def items? : Node → Option (List Node)
  | sequence items => some items
  | scalar true "" => some []
  | _ => none

def literal? : Node → Option Literal
  | scalar true text => plainLiteral? text
  | scalar false text => some (.str text)
  | _ => none

/-- A value that may be missing or null. -/
def optional? (read? : Node → Option α) : Option Node → Option (Option α)
  | none => some none
  | some (scalar plain text) =>
    if plain && isNull text then some none else (read? (scalar plain text)).map some
  | some node => (read? node).map some

def location? (node : Node) : Option RawLocation := do
  let members ← node.members?
  return {
    area := ← (← (← member? members "area")).text?
    type := ← optional? text? (← member? members "type")
    value := ← optional? literal? (← member? members "value")
    name := ← optional? text? (← member? members "name") }

def instruction? (node : Node) : Option RawInstruction := do
  let members ← node.members?
  return {
    op := ← (← (← member? members "op")).text?
    first := ← optional? location? (← member? members "first")
    second := ← optional? location? (← member? members "second")
    target := ← optional? location? (← member? members "target") }

def symbol? (node : Node) : Option RawSymbol := do
  let members ← node.members?
  return {
    type := ← (← (← member? members "type")).text?
    value := ← optional? literal? (← member? members "value") }

/-- The symbols of a mapping; of several with one name the last counts. -/
def symbols? (node : Node) : Option (SortedMap String RawSymbol) := do
  let entries ← (← node.members?).mapM fun m => do return (m.1, ← symbol? m.2)
  return .ofList entries

def instructions? (node : Node) : Option (List RawInstruction) := do
  (← node.items?).mapM instruction?

/-- A part that is empty when it is missing. -/
def orEmpty? (empty : α) (read? : Node → Option α) : Option Node → Option α
  | none => some empty
  | some node => read? node

def document? (node : Node) : Option Document := do
  let members ← node.members?
  return {
    symbols := ← orEmpty? .empty symbols? (← member? members "symbols")
    instructions := ← orEmpty? [] instructions? (← member? members "instructions") }

end Node

end ScriptMachine.Yaml
