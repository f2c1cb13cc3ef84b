import ScriptMachine.Json.Token

/-!
# JSON trees

A tree is built from tokens by a machine with a stack of the arrays and objects that are still open.
Members of an object keep their order, and a name may occur more than once.
-/

namespace ScriptMachine.Json

inductive Tree where
  | null
  | bool (b : Bool)
  | number (n : Numeral)
  | string (content : Content)
  | array (items : List Tree)
  | object (members : List (Content × Tree))

/-- An array or object that is still open, with what it holds so far, last first. -/
inductive Frame where
  | array (items : List Tree)
  | object (members : List (Content × Tree))
  /-- An object whose next member has its name. -/
  | member (members : List (Content × Tree)) (name : Content)

/-- What may come next. -/
inductive Expectation where
  | value
  | valueOrClose
  | commaOrClose
  | name
  | nameOrClose
  | colon
  | nothing (tree : Tree)

structure Builder where
  frames : List Frame := []
  expectation : Expectation := .value

namespace Builder

/-- Adds a complete value to the innermost open array or object. -/
def add (frames : List Frame) (tree : Tree) : Option Builder :=
  match frames with
  | [] => some ⟨[], .nothing tree⟩
  | .array items :: rest => some ⟨.array (tree :: items) :: rest, .commaOrClose⟩
  | .member members name :: rest => some ⟨.object ((name, tree) :: members) :: rest, .commaOrClose⟩
  | .object _ :: _ => none

/-- The first token of a value. -/
def value (frames : List Frame) : Token → Option Builder
  | .null => add frames .null
  | .bool b => add frames (.bool b)
  | .number n => add frames (.number n)
  | .string content => add frames (.string content)
  | .openArray => some ⟨.array [] :: frames, .valueOrClose⟩
  | .openObject => some ⟨.object [] :: frames, .nameOrClose⟩
  | _ => none

def name (frames : List Frame) (content : Content) : Option Builder :=
  match frames with
  | .object members :: rest => some ⟨.member members content :: rest, .colon⟩
  | _ => none

def step (b : Builder) (t : Token) : Option Builder :=
  match b.expectation, t, b.frames with
  | .value, t, frames => value frames t
  | .valueOrClose, .closeArray, .array items :: rest => add rest (.array items.reverse)
  | .valueOrClose, t, frames => value frames t
  | .commaOrClose, .comma, .array items :: rest => some ⟨.array items :: rest, .value⟩
  | .commaOrClose, .comma, .object members :: rest => some ⟨.object members :: rest, .name⟩
  | .commaOrClose, .closeArray, .array items :: rest => add rest (.array items.reverse)
  | .commaOrClose, .closeObject, .object members :: rest => add rest (.object members.reverse)
  | .nameOrClose, .closeObject, .object members :: rest => add rest (.object members.reverse)
  | .nameOrClose, .string content, frames => name frames content
  | .name, .string content, frames => name frames content
  | .colon, .colon, frames => some ⟨frames, .value⟩
  | _, _, _ => none

end Builder

/-- The tree of a text that is one value. -/
def parse? (text : String) : Option Tree := do
  let tokens ← tokens? text
  let builder ← tokens.foldlM Builder.step {}
  match builder.expectation with
  | .nothing tree => some tree
  | _ => none

end ScriptMachine.Json
