import ScriptMachine.Number.Power

/-!
# Binary floating-point numbers as scaled integers

A finite double is a signed integer times a power of two. The order of doubles and the remainder of
a division are computed exactly on that form.
-/

namespace ScriptMachine.Number

/-- What a double stands for: `significand * 2 ^ exponent` with a sign, when it is finite. -/
inductive Parts where
  | notANumber
  | infinite (negative : Bool)
  | finite (negative : Bool) (significand : Nat) (exponent : Int)
  deriving Repr, DecidableEq

/-- The least exponent, that of the subnormal numbers. -/
def leastExponent : Int := -1074

/-- The weight of the sign bit. -/
def signBit : Nat := 0x8000000000000000

/-- The weight of the bit above the stored fraction, which normal numbers leave out. -/
def hiddenBit : Nat := 0x10000000000000

/-- The bits of positive infinity: the greatest exponent and no fraction. -/
def infinityBits : Nat := 0x7FF0000000000000

def isNegative (x : Float) : Bool := signBit ≤ x.toBits.toNat

/-- The bits below the sign, which order doubles of one sign. -/
def magnitudeBits (x : Float) : Nat := x.toBits.toNat % signBit

def parts (x : Float) : Parts :=
  let biased : Nat := magnitudeBits x / hiddenBit
  let fraction : Nat := magnitudeBits x % hiddenBit
  if biased = 2047 then
    if fraction = 0 then .infinite (isNegative x) else .notANumber
  else if biased = 0 then .finite (isNegative x) fraction leastExponent
  else .finite (isNegative x) (hiddenBit + fraction) ((biased : Int) - 1075)

/-- A double whose magnitude lies beyond infinity. -/
def isNaN (x : Float) : Bool := infinityBits < magnitudeBits x

def isInfinite (x : Float) : Bool := magnitudeBits x == infinityBits

/-- An integer that orders doubles as the numbers they stand for; both zeros have key zero. -/
def orderKey (x : Float) : Int :=
  if isNegative x then -(magnitudeBits x : Int) else magnitudeBits x

/-- The order of two doubles, or nothing when either is not a number. -/
def order (x y : Float) : Option Ordering :=
  if isNaN x || isNaN y then none else some (compare (orderKey x) (orderKey y))

/-! ## Exact results -/

/-- The double `±significand * 2 ^ exponent`, for a significand below `2 ^ 53` and an exponent that
is at least `leastExponent`. The significand is moved up to its normal place, or as far as the
least exponent allows. -/
def exact (negative : Bool) (significand : Nat) (exponent : Int) : Float :=
  let sign := if negative then signBit else 0
  if significand = 0 then Float.ofBits (UInt64.ofNat sign)
  else
    let shift := min (52 - significand.log2) (exponent - leastExponent).toNat
    let place := (exponent - leastExponent).toNat - shift
    Float.ofBits (UInt64.ofNat (sign + place * hiddenBit + significand * Nat.pow 2 shift))

/-- The double equal to an integer of magnitude below `2 ^ 53`. -/
def ofSmallInt (i : Int) : Float := exact (i < 0) i.natAbs 0

def infinity : Float := Float.ofBits (UInt64.ofNat infinityBits)

def notANumber : Float := Float.ofBits 0x7FF8000000000000

/-- The remainder of the quotient rounded toward zero: exact, smaller than `y` in magnitude and of
the sign of `x`. -/
def remainder (x y : Float) : Float :=
  match parts x, parts y with
  | .finite .., .infinite _ => x
  | .finite negative m e, .finite _ m' e' =>
    if m' = 0 then notANumber
    else
      let least := min e e'
      exact negative ((m * pow2 (e - least)) % (m' * pow2 (e' - least))) least
  | _, _ => notANumber

end ScriptMachine.Number
