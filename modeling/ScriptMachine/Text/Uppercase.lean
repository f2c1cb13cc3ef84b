/-!
# Uppercase names

Names of types, opcodes and memory areas are read in any letter case. They consist of ASCII
capitals, so the only letters that matter are those whose uppercase lies in ASCII.
-/

namespace ScriptMachine.Text

/-- The uppercase of a character when that is ASCII text; any other character stands for itself.
Ligatures and the sharp s become two or three capitals. -/
def uppercaseChar (c : Char) : List Char :=
  match c with
  | 'ı' => ['I']
  | 'ſ' => ['S']
  | 'ß' => ['S', 'S']
  | 'ﬀ' => ['F', 'F']
  | 'ﬁ' => ['F', 'I']
  | 'ﬂ' => ['F', 'L']
  | 'ﬃ' => ['F', 'F', 'I']
  | 'ﬄ' => ['F', 'F', 'L']
  | 'ﬅ' => ['S', 'T']
  | 'ﬆ' => ['S', 'T']
  | c => [c.toUpper]

/-- Compared with an ASCII name, this agrees with the full uppercase mapping: a character that it
leaves outside ASCII has no ASCII uppercase. -/
def uppercase (cs : List Char) : List Char :=
  cs.flatMap uppercaseChar

end ScriptMachine.Text
