import ScriptMachine.Text.Quoted

/-!
# Values in diagnostics

Diagnostics show a value by its kind and its parts, named or not.
-/

namespace ScriptMachine.Text

/-- A kind with one part. -/
def withPart (kind part : String) : String := kind ++ "(" ++ part ++ ")"

/-- A kind with its fields by name. -/
def withFields (kind : String) (fields : List (String × String)) : String :=
  kind ++ " \x7b " ++ ", ".intercalate (fields.map fun f => f.1 ++ ": " ++ f.2) ++ " \x7d"

def listed (items : List String) : String := "[" ++ ", ".intercalate items ++ "]"

end ScriptMachine.Text
