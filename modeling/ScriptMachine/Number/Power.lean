/-!
# Powers of two and ten

Scales for exact arithmetic. A negative exponent counts as zero, so that a scale and its inverse can be
put on the two sides of a comparison: `x * 10 ^ e < y` is `x * pow10 e < y * pow10 (-e)`.
-/

namespace ScriptMachine.Number

def pow2 (e : Int) : Nat := Nat.pow 2 e.toNat

def pow10 (e : Int) : Nat := Nat.pow 10 e.toNat

end ScriptMachine.Number
