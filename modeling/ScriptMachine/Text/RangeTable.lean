/-!
# Tables of code point ranges

A property of characters given by its inclusive ranges of code points.
-/

namespace ScriptMachine.Text

/-- The code points from the first to the last of each pair, both included. -/
abbrev RangeTable := List (Nat × Nat)

def RangeTable.contains (table : RangeTable) (c : Char) : Bool :=
  table.any fun range => range.1 ≤ c.toNat && c.toNat ≤ range.2

end ScriptMachine.Text
