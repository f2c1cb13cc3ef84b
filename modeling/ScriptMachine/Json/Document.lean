import ScriptMachine.Json.Tree

/-!
# Documents in JSON

The parts of a document are objects: their members may come in any order, unknown members are passed
over, and a known member must not come twice. Each of them may also be an array of its members' values
in a fixed order.
-/

namespace ScriptMachine.Json

/-- The value of a member, if it is there; nothing at all when it is there more than once. -/
def member? (members : List (Content × Tree)) (name : String) : Option (Option Tree) :=
  match members.filter fun m => m.1 == some name with
  | [] => some none
  | [m] => some (some m.2)
  | _ => none

namespace Tree

/-- The values of the named members, from an object or from an array of just these values. -/
def record? (names : List String) : Tree → Option (List (Option Tree))
  | object members => do
    guard (members.all fun m => m.1.isSome)
    names.mapM (member? members)
  | array items => if items.length = names.length then some (items.map some) else none
  | _ => none

def text? : Tree → Option String
  | string content => content
  | _ => none

def literal? : Tree → Option Literal
  | bool b => some (.bool b)
  | number n => n.literal?
  | string content => content.map .str
  | _ => none

/-- A value that may be missing or null. -/
def optional? (read? : Tree → Option α) : Option Tree → Option (Option α)
  | none => some none
  | some null => some none
  | some tree => (read? tree).map some

def location? (tree : Tree) : Option RawLocation := do
  match ← tree.record? ["area", "type", "value", "name"] with
  | [some area, type, value, name] =>
    return {
      area := ← area.text?
      type := ← optional? text? type
      value := ← optional? literal? value
      name := ← optional? text? name }
  | _ => none

def instruction? (tree : Tree) : Option RawInstruction := do
  match ← tree.record? ["op", "first", "second", "target"] with
  | [some op, first, second, target] =>
    return {
      op := ← op.text?
      first := ← optional? location? first
      second := ← optional? location? second
      target := ← optional? location? target }
  | _ => none

def symbol? (tree : Tree) : Option RawSymbol := do
  match ← tree.record? ["type", "value"] with
  | [some type, value] => return { type := ← type.text?, value := ← optional? literal? value }
  | _ => none

/-- The symbols of an object; of several with one name the last counts. -/
def symbols? : Tree → Option (SortedMap String RawSymbol)
  | object members => do
    let entries ← members.mapM fun m => do return (← m.1, ← symbol? m.2)
    return .ofList entries
  | _ => none

def instructions? : Tree → Option (List RawInstruction)
  | array items => items.mapM instruction?
  | _ => none

/-- The values of the two members of a document. An array may leave out the last ones. -/
def parts? : Tree → Option (Option Tree × Option Tree)
  | object members => do
    guard (members.all fun m => m.1.isSome)
    return (← member? members "symbols", ← member? members "instructions")
  | array [] => some (none, none)
  | array [symbols] => some (some symbols, none)
  | array [symbols, instructions] => some (some symbols, some instructions)
  | _ => none

/-- A part that is empty when it is missing. -/
def orEmpty? (empty : α) (read? : Tree → Option α) : Option Tree → Option α
  | none => some empty
  | some tree => read? tree

def document? (tree : Tree) : Option Document := do
  let (symbols, instructions) ← tree.parts?
  return {
    symbols := ← orEmpty? .empty symbols? symbols
    instructions := ← orEmpty? [] instructions? instructions }

end Tree

end ScriptMachine.Json
