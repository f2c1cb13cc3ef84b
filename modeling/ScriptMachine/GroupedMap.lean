import ScriptMachine.SortedMap

/-!
# Maps in groups

A map whose keys are held in named groups, so that a whole group can be dropped at once. It is kept in two
tables, the values by key and the keys by group, which are written together.
-/

namespace ScriptMachine

/-- A value and the group that it belongs to. -/
structure Grouped (V : Type) where
  group : String
  value : V

/-- A table of values, and beside it the keys of every group in the order in which they were added. -/
structure GroupedMap (K V : Type) [LT K] where
  values : SortedMap K V := .empty
  listing : SortedMap String (List K) := .empty

namespace GroupedMap

variable {K V : Type} [LT K]

def empty : GroupedMap K V := {}

/-- The keys of a group; a group that is not listed has none. -/
def keysOf (m : GroupedMap K V) (group : String) : List K := (m.listing.get? group).getD []

variable [DecidableEq K]

def get? (m : GroupedMap K V) (key : K) : Option V := m.values.get? key

/-- Drops a group with all its keys, and tells how many there were. -/
def drop (m : GroupedMap K V) (group : String) : GroupedMap K V × Nat :=
  match m.listing.get? group with
  | none => (m, 0)
  | some keys =>
    ({ values := keys.foldl SortedMap.erase m.values, listing := m.listing.erase group }, keys.length)

variable [DecidableLT K] [KeyOrder K]

/-- Adds a key that is not there yet to a group. -/
def add (m : GroupedMap K V) (group : String) (key : K) (value : V) : GroupedMap K V :=
  { values := m.values.insert key value
    listing := m.listing.insert group (m.keysOf group ++ [key]) }

/-- The map of some entries with different keys. -/
def ofList (l : List (K × Grouped V)) : GroupedMap K V :=
  l.foldl (fun m e => m.add e.2.group e.1 e.2.value) empty

end GroupedMap

end ScriptMachine
