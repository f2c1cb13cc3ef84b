import ScriptMachine.Document.Basic

/-!
# JSON tokens

A text is read character by character. A string that contains half of a surrogate pair is a token,
but has no text.
-/

namespace ScriptMachine.Json

/-- The content of a string; nothing when it is no sequence of characters. -/
abbrev Content := Option String

/-- A number as it is written. -/
structure Numeral where
  negative : Bool
  whole : Nat
  /-- The digits after the point. -/
  fraction : Option (List Char)
  exponent : Option Int
  deriving Repr, DecidableEq

namespace Numeral

/-- An exponent mark with its exponent, or nothing at all. -/
def exponentPart? : List Char → Option (Option Int)
  | [] => some none
  | 'e' :: cs => (Number.exponent? cs).map some
  | 'E' :: cs => (Number.exponent? cs).map some
  | _ => none

/-- A number: no leading zero, and digits on both sides of a point. -/
def parse? (cs : List Char) : Option Numeral := do
  let (negative, cs) := match cs with
    | '-' :: cs => (true, cs)
    | cs => (false, cs)
  let wholeDigits := cs.takeWhile Char.isDigit
  let cs := cs.dropWhile Char.isDigit
  guard (!wholeDigits.isEmpty)
  guard (wholeDigits.length == 1 || wholeDigits.head? != some '0')
  let whole ← Number.digitsValue? 10 wholeDigits
  match cs with
  | '.' :: cs =>
    let fraction := cs.takeWhile Char.isDigit
    guard (!fraction.isEmpty)
    let exponent ← exponentPart? (cs.dropWhile Char.isDigit)
    return ⟨negative, whole, some fraction, exponent⟩
  | cs =>
    let exponent ← exponentPart? cs
    return ⟨negative, whole, none, exponent⟩

def decimal (n : Numeral) : Number.Decimal :=
  let fraction := n.fraction.getD []
  let digits := n.whole * Nat.pow 10 fraction.length + (Number.digitsValue? 10 fraction).getD 0
  ⟨n.negative, digits, n.exponent.getD 0 - fraction.length⟩

/-- The integer of a number without point and exponent that fits in 64 bits. The negative zero is no
integer. -/
def integer? (n : Numeral) : Option Int64 :=
  if n.fraction.isSome || n.exponent.isSome then none
  else if n.negative then
    if n.whole = 0 || 0x8000000000000000 < n.whole then none else some (Int64.ofInt (-n.whole))
  else if n.whole < 0x8000000000000000 then some (Int64.ofNat n.whole)
  else none

/-- An integer if it is one, and otherwise the nearest double, which must be finite. -/
def literal? (n : Numeral) : Option Literal :=
  match n.integer? with
  | some i => some (.int i)
  | none =>
    let d := n.decimal.nearest
    if Number.isInfinite d then none else some (.double d)

end Numeral

inductive Token where
  | openArray
  | closeArray
  | openObject
  | closeObject
  | comma
  | colon
  | null
  | bool (b : Bool)
  | number (n : Numeral)
  | string (content : Content)
  deriving Repr, DecidableEq

/-! ## Strings -/

/-- A string that is being read: its characters, last first, half a surrogate pair that waits for the
other half, and whether a half stands alone. -/
structure Draft where
  characters : List Char := []
  pending : Option Nat := none
  broken : Bool := false
  deriving Repr

namespace Draft

/-- Adds a character. A half that was waiting stays alone. -/
def push (d : Draft) (c : Char) : Draft :=
  { characters := c :: d.characters, pending := none, broken := d.broken || d.pending.isSome }

/-- Adds an escaped code unit, joining it to a half that waits. -/
def pushUnit (d : Draft) (unit : Nat) : Draft :=
  if 0xD800 ≤ unit && unit < 0xDC00 then
    { d with pending := some unit, broken := d.broken || d.pending.isSome }
  else if 0xDC00 ≤ unit && unit < 0xE000 then
    match d.pending with
    | some high =>
      { d with
        characters := Char.ofNat (0x10000 + (high - 0xD800) * 0x400 + (unit - 0xDC00)) :: d.characters
        pending := none }
    | none => { d with broken := true }
  else d.push (Char.ofNat unit)

def content (d : Draft) : Content :=
  if d.broken || d.pending.isSome then none else some (String.ofList d.characters.reverse)

end Draft

/-- The character of an escape with one letter. -/
def escaped? : Char → Option Char
  | '"' => some '"'
  | '\\' => some '\\'
  | '/' => some '/'
  | 'b' => some '\x08'
  | 'f' => some '\x0c'
  | 'n' => some '\n'
  | 'r' => some '\r'
  | 't' => some '\t'
  | _ => none

/-! ## Reading -/

/-- What is being read. Characters read so far are kept last first. -/
inductive Mode where
  | between
  | word (read : List Char)
  | number (read : List Char)
  | string (draft : Draft)
  | escape (draft : Draft)
  | unit (draft : Draft) (read : List Char)

structure Reader where
  mode : Mode := .between
  /-- Tokens, last first. -/
  tokens : List Token := []

namespace Reader

def emit (r : Reader) (t : Token) : Reader := ⟨.between, t :: r.tokens⟩

def word? (cs : List Char) : Option Token :=
  if cs = "null".toList then some .null
  else if cs = "true".toList then some (.bool true)
  else if cs = "false".toList then some (.bool false)
  else none

/-- Ends a word or a number. -/
def settle (r : Reader) : Option Reader :=
  match r.mode with
  | .between => some r
  | .word read => (word? read.reverse).map r.emit
  | .number read => (Numeral.parse? read.reverse).map fun n => r.emit (.number n)
  | _ => none

/-- Reads the first character of a token, or a blank. -/
def begin (r : Reader) (c : Char) : Option Reader :=
  match c with
  | ' ' | '\t' | '\n' | '\r' => some r
  | '[' => some (r.emit .openArray)
  | ']' => some (r.emit .closeArray)
  | '{' => some (r.emit .openObject)
  | '}' => some (r.emit .closeObject)
  | ',' => some (r.emit .comma)
  | ':' => some (r.emit .colon)
  | '"' => some { r with mode := .string {} }
  | c =>
    if c.isDigit || c == '-' then some { r with mode := .number [c] }
    else if c.isAlpha then some { r with mode := .word [c] }
    else none

def isNumeralPart (c : Char) : Bool :=
  c.isDigit || c == '+' || c == '-' || c == '.' || c == 'e' || c == 'E'

def read (r : Reader) (c : Char) : Option Reader :=
  match r.mode with
  | .between => r.begin c
  | .word read =>
    if c.isAlpha then some { r with mode := .word (c :: read) } else r.settle.bind (·.begin c)
  | .number read =>
    if isNumeralPart c then some { r with mode := .number (c :: read) }
    else r.settle.bind (·.begin c)
  | .string draft =>
    if c == '"' then some (r.emit (.string draft.content))
    else if c == '\\' then some { r with mode := .escape draft }
    else if c.toNat < 0x20 then none
    else some { r with mode := .string (draft.push c) }
  | .escape draft =>
    if c == 'u' then some { r with mode := .unit draft [] }
    else (escaped? c).map fun e => { r with mode := .string (draft.push e) }
  | .unit draft read =>
    if read.length < 3 then some { r with mode := .unit draft (c :: read) }
    else
      (Number.digitsValue? 16 (c :: read).reverse).map fun unit =>
        { r with mode := .string (draft.pushUnit unit) }

end Reader

/-- The tokens of a text, or nothing when it has characters that form none. -/
def tokens? (text : String) : Option (List Token) := do
  let reader ← text.toList.foldlM Reader.read {}
  let reader ← reader.settle
  return reader.tokens.reverse

end ScriptMachine.Json
