import ScriptMachine.Number.Power

/-!
# Shortest decimal digits

Of all decimals that round to a given double, those with the fewest digits, and of these the one
nearest to the double.
-/

namespace ScriptMachine.Number

/-- The decimal `digits * 10 ^ exponent`. -/
structure Digits where
  digits : Nat
  exponent : Int
  deriving Repr, DecidableEq

/-- The reals that round to a double, on a common scale: the double itself is `value / scale`. -/
structure Neighbourhood where
  low : Nat
  value : Nat
  high : Nat
  scale : Nat
  /-- The ends round to the double too. -/
  closed : Bool

/-- The neighbourhood of `significand * 2 ^ exponent`. The doubles below a power of two lie twice as
close as those above it; there the lower end is half as far away. -/
def neighbourhood (significand : Nat) (exponent : Int) (closerBelow : Bool) : Neighbourhood :=
  let lowGap := if closerBelow then 1 else 2
  let up := pow2 (exponent - 2)
  { low := (4 * significand - lowGap) * up
    value := 4 * significand * up
    high := (4 * significand + 2) * up
    scale := pow2 (2 - exponent)
    closed := significand % 2 = 0 }

namespace Neighbourhood

/-- The decimal `candidate * 10 ^ exponent` rounds to the double. -/
def accepts (n : Neighbourhood) (candidate : Nat) (exponent : Int) : Bool :=
  let point := candidate * pow10 exponent * n.scale
  let down := pow10 (-exponent)
  if n.closed then n.low * down ≤ point && point ≤ n.high * down
  else n.low * down < point && point < n.high * down

/-- The greatest multiple of `10 ^ exponent` that is at most the double, as a count. -/
def countBelow (n : Neighbourhood) (exponent : Int) : Nat :=
  n.value * pow10 (-exponent) / (n.scale * pow10 exponent)

/-- The double lies at least as near to `count + 1` as to `count`. -/
def nearerAbove (n : Neighbourhood) (count : Nat) (exponent : Int) : Bool :=
  (2 * count + 1) * pow10 exponent * n.scale ≤ 2 * n.value * pow10 (-exponent)

/-- The neighbour of the double on the grid of `10 ^ exponent` that rounds to it; of two, the nearer,
and the upper one when both are as near. -/
def onGrid? (n : Neighbourhood) (exponent : Int) : Option Nat :=
  let below := n.countBelow exponent
  match n.accepts below exponent, n.accepts (below + 1) exponent with
  | true, true => some (if n.nearerAbove below exponent then below + 1 else below)
  | true, false => some below
  | false, true => some (below + 1)
  | false, false => none

/-- The first hit on the grids from `10 ^ exponent` downward. -/
def search (n : Neighbourhood) : Nat → Int → Digits
  | 0, exponent => ⟨n.countBelow exponent, exponent⟩
  | fuel + 1, exponent =>
    match n.onGrid? exponent with
    | some digits => ⟨digits, exponent⟩
    | none => n.search fuel (exponent - 1)

/-- The double is below `10 ^ exponent`. -/
def isBelow (n : Neighbourhood) (exponent : Int) : Bool :=
  n.value * pow10 (-exponent) < n.scale * pow10 exponent

end Neighbourhood

/-- Trailing zeros moved from the digits to the exponent, at most `fuel` of them. -/
def dropZeros : Nat → Digits → Digits
  | 0, d => d
  | fuel + 1, d =>
    if d.digits != 0 && d.digits % 10 == 0 then dropZeros fuel ⟨d.digits / 10, d.exponent + 1⟩ else d

/-- The least `p`, among those near the estimate from the binary exponent, with the double below
`10 ^ p`. -/
def decimalPlace (n : Neighbourhood) (significand : Nat) (exponent : Int) : Int :=
  let estimate := (significand.log2 + exponent) * 30103 / 100000
  match [estimate - 1, estimate, estimate + 1, estimate + 2].find? n.isBelow with
  | some p => p
  | none => estimate + 3

/-- The shortest decimal that rounds to the positive double `significand * 2 ^ exponent`. Seventeen
digits are always enough. -/
def shortest (significand : Nat) (exponent : Int) (closerBelow : Bool) : Digits :=
  let n := neighbourhood significand exponent closerBelow
  dropZeros 20 (n.search 17 (decimalPlace n significand exponent - 1))

end ScriptMachine.Number
