import ScriptMachine.Number.Binary64
import ScriptMachine.Number.Shortest

/-!
# Doubles in decimal

A double is written with its shortest digits, either always positionally or with an exponent when it
is very small or very large. A decimal is read as the nearest double.
-/

namespace ScriptMachine.Number

/-! ## Writing -/

/-- The decisions that a layout of doubles makes. -/
structure Layout where
  /-- Numbers below `10 ^ low` have an exponent. -/
  low : Option Int
  /-- Numbers of at least `10 ^ high` have an exponent. -/
  high : Option Int
  /-- What follows a whole number written positionally. -/
  wholeMark : String

/-- Never an exponent, and whole numbers without a point. -/
def plainLayout : Layout := ⟨none, none, ""⟩

/-- An exponent below `0.0001` and from `10 ^ 16` on; whole numbers keep a point. -/
def scientificLayout : Layout := ⟨some (-4), some 16, ".0"⟩

def zeros (n : Nat) : String := String.ofList (List.replicate n '0')

/-- Digits with the point after the first `place` of them. -/
def positional (mark : String) (digits : List Char) (place : Int) : String :=
  if place ≤ 0 then "0." ++ zeros (-place).toNat ++ String.ofList digits
  else if digits.length ≤ place.toNat then
    String.ofList digits ++ zeros (place.toNat - digits.length) ++ mark
  else String.ofList (digits.take place.toNat) ++ "." ++ String.ofList (digits.drop place.toNat)

/-- One digit before the point, and an exponent. -/
def scientific (digits : List Char) (place : Int) : String :=
  let fraction := digits.drop 1
  String.ofList (digits.take 1) ++ (if fraction.isEmpty then "" else "." ++ String.ofList fraction) ++
    "e" ++ toString (place - 1)

/-- The text of a positive finite double. -/
def Layout.magnitude (layout : Layout) (significand : Nat) (exponent : Int) : String :=
  let closerBelow := significand == hiddenBit && exponent != leastExponent
  let d := shortest significand exponent closerBelow
  let digits := Nat.toDigits 10 d.digits
  let place := d.exponent + digits.length
  let small := match layout.low with | some low => place ≤ low | none => false
  let large := match layout.high with | some high => high < place | none => false
  if small || large then scientific digits place else positional layout.wholeMark digits place

/-- The text of a double. What is not a number has no sign. -/
def Layout.text (layout : Layout) (x : Float) : String :=
  let signed (negative : Bool) (body : String) := if negative then "-" ++ body else body
  match parts x with
  | .notANumber => "NaN"
  | .infinite negative => signed negative "inf"
  | .finite negative 0 _ => signed negative ("0" ++ layout.wholeMark)
  | .finite negative m e => signed negative (layout.magnitude m e)

/-! ## Reading -/

/-- A signed decimal `±digits * 10 ^ exponent`. -/
structure Decimal where
  negative : Bool
  digits : Nat
  exponent : Int
  deriving Repr, DecidableEq

/-- The nearest double. Decimals far outside the range of doubles are settled by their number of
digits. -/
def Decimal.nearest (d : Decimal) : Float :=
  let place := d.exponent + (Nat.toDigits 10 d.digits).length
  let magnitude : Float :=
    if d.digits = 0 || place < -400 then exact false 0 0
    else if 400 < place then infinity
    else Float.ofScientific d.digits (d.exponent < 0) d.exponent.natAbs
  if d.negative then -magnitude else magnitude

/-- The value of a list of digits in a base up to sixteen, or nothing when one is no such digit. -/
def digitsValue? (base : Nat) (cs : List Char) : Option Nat :=
  cs.foldlM
    (fun n c => do
      let d ←
        if '0' ≤ c && c ≤ '9' then some (c.toNat - '0'.toNat)
        else if 'a' ≤ c && c ≤ 'f' then some (c.toNat - 'a'.toNat + 10)
        else if 'A' ≤ c && c ≤ 'F' then some (c.toNat - 'A'.toNat + 10)
        else none
      if d < base then some (n * base + d) else none)
    0

/-- An exponent: an optional sign and at least one digit. -/
def exponent? : List Char → Option Int
  | '-' :: [] => none
  | '+' :: [] => none
  | [] => none
  | '-' :: cs => (digitsValue? 10 cs).map fun n => -(n : Int)
  | '+' :: cs => (digitsValue? 10 cs).map fun n => (n : Int)
  | cs => (digitsValue? 10 cs).map fun n => (n : Int)

end ScriptMachine.Number
