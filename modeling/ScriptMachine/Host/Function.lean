import ScriptMachine.Value

/-!
# Host functions

A script calls functions of its host by name and number of arguments. What a function does is a
reply to its arguments: a value or a failure, and the lines that the host writes meanwhile.
-/

namespace ScriptMachine

/-- How scripts ask for a host function. -/
structure Signature where
  name : String
  arity : Nat
  deriving Repr, DecidableEq

namespace Signature

/-- By name, then by number of arguments. -/
instance : LT Signature where
  lt a b := a.name < b.name ∨ a.name = b.name ∧ a.arity < b.arity

instance : DecidableLT Signature := fun a b =>
  inferInstanceAs (Decidable (a.name < b.name ∨ a.name = b.name ∧ a.arity < b.arity))

def text (s : Signature) : String := s.name ++ "/" ++ toString s.arity

def inspect (s : Signature) : String :=
  Text.withFields "Signature" [("name", Text.quote s.name), ("arity", toString s.arity)]

end Signature

/-- Why a host function gave no value. -/
inductive HostFailure where
  /-- The function reports an error. -/
  | refused (message : String)
  /-- The function broke down, with or without a message. -/
  | crashed (message : Option String)
  deriving Repr, DecidableEq

def HostFailure.message : HostFailure → String
  | refused message => message
  | crashed (some message) => "panicked: " ++ message
  | crashed none => "panicked"

/-- What a host function answers, and the lines the host writes while it runs. -/
structure HostReply where
  result : Except HostFailure Value
  lines : List String := []

/-- A host function answers by its arguments alone. -/
abbrev HostFunction := List Value → HostReply

/-- A host function that was called, with its arguments and its answer. -/
structure HostCall where
  signature : Signature
  arguments : List Value
  reply : HostReply

end ScriptMachine
