/-!
# Numbers as digits
-/

namespace ScriptMachine.Text

/-- Zeros in front of digits up to a least width. -/
def fill (width : Nat) (digits : List Char) : String :=
  String.ofList (List.replicate (width - digits.length) '0' ++ digits)

/-- Digits in base ten, filled with zeros to a least width. -/
def decimal (width n : Nat) : String := fill width (Nat.toDigits 10 n)

/-- Digits in base sixteen with lowercase letters, filled with zeros to a least width. -/
def hex (width n : Nat) : String := fill width (Nat.toDigits 16 n)

end ScriptMachine.Text
