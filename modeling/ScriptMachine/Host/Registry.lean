import ScriptMachine.GroupedMap
import ScriptMachine.Host.Function

/-!
# The registry of host functions

Functions are registered in groups, so that a whole group can be withdrawn at once. A signature is
taken at most once, whatever the group.
-/

namespace ScriptMachine

instance : KeyOrder Signature where
  irrefl a h := by
    rcases h with h | ⟨_, h⟩
    · exact String.lt_irrefl _ h
    · exact Nat.lt_irrefl _ h
  trans {a b c} h h' := by
    rcases h with h | ⟨e, h⟩ <;> rcases h' with h' | ⟨e', h'⟩
    · exact .inl (String.lt_trans h h')
    · exact .inl (e' ▸ h)
    · exact .inl (e ▸ h')
    · exact .inr ⟨e.trans e', Nat.lt_trans h h'⟩
  total {a b} h hne := by
    by_cases hn : a.name = b.name
    · have harity : a.arity ≠ b.arity := fun he => hne (by cases a; cases b; simp_all)
      have hlt : ¬ a.arity < b.arity := fun hl => h (.inr ⟨hn, hl⟩)
      exact .inr ⟨hn.symm, by omega⟩
    · exact .inl (KeyOrder.total (fun hl => h (.inl hl)) hn)

/-- The registered functions by signature, in their groups. -/
structure Registry where
  functions : GroupedMap Signature HostFunction := .empty

inductive RegistryError where
  | duplicate (signature : Signature)
  deriving Repr, DecidableEq

def RegistryError.message : RegistryError → String
  | duplicate signature => "function " ++ signature.text ++ " is already registered"

namespace Registry

def empty : Registry := {}

def lookup (r : Registry) (s : Signature) : Option HostFunction := r.functions.get? s

def contains (r : Registry) (s : Signature) : Bool := (r.lookup s).isSome

def size (r : Registry) : Nat := r.functions.values.size

def isEmpty (r : Registry) : Bool := r.functions.values.isEmpty

/-- Adds a function to a group, unless its signature is taken. -/
def register (r : Registry) (group : String) (s : Signature) (f : HostFunction) :
    Except RegistryError Registry :=
  if r.contains s then .error (.duplicate s)
  else .ok ⟨r.functions.add group s f⟩

/-- The signatures of a group, in the order in which they were registered. -/
def members (r : Registry) (group : String) : List Signature := r.functions.keysOf group

/-- Withdraws every function of a group, and tells how many there were. -/
def unregister (r : Registry) (group : String) : Registry × Nat :=
  let (functions, count) := r.functions.drop group
  (⟨functions⟩, count)

/-- All signatures, ascending. -/
def signatures (r : Registry) : List Signature := r.functions.values.keys

/-- The groups that have a function, ascending. -/
def groups (r : Registry) : List String := r.functions.listing.keys

/-- The registry as it appears in diagnostics. -/
def inspect (r : Registry) : String :=
  Text.withFields "FunctionRegistry"
    [("functions", Text.listed (r.signatures.map Signature.inspect)),
      ("groups", Text.listed (r.groups.map Text.quote))]

end Registry

end ScriptMachine
