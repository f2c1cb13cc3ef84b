import ScriptMachine.Text.Digits
import ScriptMachine.Text.Unprintable

/-!
# Quoted text

A text between double quotes, on one line, with every character that would not show spelled out.
-/

namespace ScriptMachine.Text

/-- How a character is written inside double quotes. -/
def quoteChar (c : Char) : String :=
  match c with
  | '\x00' => "\\0"
  | '\t' => "\\t"
  | '\r' => "\\r"
  | '\n' => "\\n"
  | '"' => "\\\""
  | '\\' => "\\\\"
  | c =>
    if c.toNat < 0x7F && 0x20 ≤ c.toNat then c.toString
    else if isUnprintable c then "\\u\x7b" ++ hex 1 c.toNat ++ "\x7d"
    else c.toString

/-- A text between double quotes. -/
def quote (text : String) : String :=
  "\"" ++ String.join (text.toList.map quoteChar) ++ "\""

end ScriptMachine.Text
