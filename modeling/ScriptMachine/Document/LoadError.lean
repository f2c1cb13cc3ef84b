import ScriptMachine.Document.Basic

/-!
# Load errors

Everything that can keep a program from being loaded, and how it is worded.
-/

namespace ScriptMachine

/-- Why a file could not be read. -/
inductive ReadError where
  | missing
  | notText
  | system (message : String)
  deriving Repr, DecidableEq

def ReadError.message : ReadError → String
  | missing => "No such file or directory (os error 2)"
  | notText => "stream did not contain valid UTF-8"
  | system message => message

/-- The part of a document that an error lies in. -/
inductive Component where
  | symbol (name : String)
  | instruction (index : Nat)
  deriving Repr, DecidableEq

def Component.text : Component → String
  | symbol name => "symbol " ++ name
  | instruction index => "instruction " ++ toString index

/-- What is wrong with a type, a literal or an operand. -/
inductive Flaw where
  | unknownType (text : String)
  | mismatch (literal : Option Literal) (type : ValueType)
  | untypedImmediate
  | untypedStack
  | untypedVariable
  | unnamedVariable
  deriving DecidableEq

def Flaw.message : Flaw → String
  | unknownType text => "unknown type " ++ text
  | mismatch literal type => Literal.inspectOption literal ++ " is not a valid " ++ type.name
  | untypedImmediate => "immediate without type or value"
  | untypedStack => "stack operand without type"
  | untypedVariable => "variable operand without type"
  | unnamedVariable => "variable operand without name"

inductive LoadError where
  | unreadable (cause : ReadError)
  | invalidJson
  | invalidYaml
  | unknownFormat (extension : String)
  /-- A name in an instruction means nothing. -/
  | decode (index : Nat) (source : ScriptError)
  | invalidLiteral (component : Component) (flaw : Flaw)
  deriving DecidableEq

namespace LoadError

def message : LoadError → String
  | unreadable cause => "failed to read program: " ++ cause.message
  | invalidJson => "invalid JSON program"
  | invalidYaml => "invalid YAML program"
  | unknownFormat extension => "unsupported program file extension " ++ Text.quote extension
  | decode index source => (Component.instruction index).text ++ ": " ++ source.message
  | invalidLiteral component flaw => component.text ++ ": " ++ flaw.message

/-- The messages of an error and of what lies behind it, outermost first. -/
def causes (e : LoadError) : List String :=
  match e with
  | unreadable cause => [e.message, cause.message]
  | decode _ source => [e.message, source.message]
  | _ => [e.message]

end LoadError

end ScriptMachine
