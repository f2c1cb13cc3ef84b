import ScriptMachine.Yaml.Token

/-!
# YAML nodes

The nodes of the documents in a text. A value that is left out is an empty plain scalar.
-/

namespace ScriptMachine.Yaml

inductive Node where
  | scalar (plain : Bool) (text : String)
  | sequence (items : List Node)
  | mapping (entries : List (Node × Node))

/-- What stands for a node that is left out. -/
def Node.absent : Node := .scalar true ""

/-- The next token is one of these. -/
def comesNext (tokens : List Token) : List Token → Bool
  | t :: _ => t ∈ tokens
  | [] => false

/-- A node and the tokens that follow it. -/
abbrev Parsed := Option (Node × List Token)

mutual

/-- Reads a node. Only in block context may it be a block, and only as the value or key of a block
mapping a sequence without indentation of its own. -/
def node : Nat → (inBlock dashAllowed : Bool) → List Token → Parsed
  | 0, _, _, _ => none
  | fuel + 1, inBlock, dashAllowed, tokens =>
    match tokens with
    | .scalar plain text :: rest => some (.scalar plain text, rest)
    | .flowSequenceStart :: rest => flowSequence fuel true [] rest
    | .flowMappingStart :: rest => flowMapping fuel true [] rest
    | .blockSequenceStart :: rest => if inBlock then blockSequence fuel [] rest else none
    | .blockMappingStart :: rest => if inBlock then blockMapping fuel [] rest else none
    | .blockEntry :: _ => if dashAllowed then dashes fuel [] tokens else none
    | _ => none

/-- The entries of a block sequence. `items` holds those already read, last first. -/
def blockSequence : Nat → (items : List Node) → List Token → Parsed
  | 0, _, _ => none
  | fuel + 1, items, tokens =>
    match tokens with
    | .blockEnd :: rest => some (.sequence items.reverse, rest)
    | .blockEntry :: rest =>
      if comesNext [.blockEntry, .blockEnd] rest then blockSequence fuel (.absent :: items) rest
      else
        match node fuel true false rest with
        | some (item, rest) => blockSequence fuel (item :: items) rest
        | none => none
    | _ => none

/-- The entries of a sequence that ends with the mapping around it. -/
def dashes : Nat → (items : List Node) → List Token → Parsed
  | 0, _, _ => none
  | fuel + 1, items, tokens =>
    match tokens with
    | .blockEntry :: rest =>
      if comesNext [.blockEntry, .key, .value, .blockEnd] rest then
        dashes fuel (.absent :: items) rest
      else
        match node fuel true false rest with
        | some (item, rest) => dashes fuel (item :: items) rest
        | none => none
    | _ => some (.sequence items.reverse, tokens)

/-- The entries of a block mapping. -/
def blockMapping : Nat → (entries : List (Node × Node)) → List Token → Parsed
  | 0, _, _ => none
  | fuel + 1, entries, tokens =>
    match tokens with
    | .blockEnd :: rest => some (.mapping entries.reverse, rest)
    | .key :: rest =>
      let keyRead : Parsed :=
        if comesNext [.key, .value, .blockEnd] rest then some (.absent, rest)
        else node fuel true true rest
      match keyRead with
      | some (key, .value :: rest) =>
        if comesNext [.key, .value, .blockEnd] rest then
          blockMapping fuel ((key, .absent) :: entries) rest
        else
          match node fuel true true rest with
          | some (value, rest) => blockMapping fuel ((key, value) :: entries) rest
          | none => none
      | some (key, rest) => blockMapping fuel ((key, .absent) :: entries) rest
      | none => none
    | _ => none

/-- The entries of a flow sequence. An entry with a key is a mapping of its own. -/
def flowSequence : Nat → (first : Bool) → (items : List Node) → List Token → Parsed
  | 0, _, _, _ => none
  | fuel + 1, first, items, tokens =>
    let entry (tokens : List Token) : Parsed :=
      match tokens with
      | .flowSequenceEnd :: rest => some (.sequence items.reverse, rest)
      | .key :: rest =>
        -- a key that is left out takes the token after it along
        let keyRead : Parsed :=
          if comesNext [.value, .flowEntry, .flowSequenceEnd] rest then
            some (.absent, rest.drop 1)
          else node fuel false false rest
        match keyRead with
        | some (key, .value :: rest) =>
          let valueRead : Parsed :=
            if comesNext [.flowEntry, .flowSequenceEnd] rest then some (.absent, rest)
            else node fuel false false rest
          match valueRead with
          | some (value, rest) => flowSequence fuel false (.mapping [(key, value)] :: items) rest
          | none => none
        | some (key, rest) => flowSequence fuel false (.mapping [(key, .absent)] :: items) rest
        | none => none
      | _ =>
        match node fuel false false tokens with
        | some (item, rest) => flowSequence fuel false (item :: items) rest
        | none => none
    match first, tokens with
    | false, .flowEntry :: rest => entry rest
    | false, .flowSequenceEnd :: _ => entry tokens
    | false, _ => none
    | true, _ => entry tokens

/-- The entries of a flow mapping. -/
def flowMapping : Nat → (first : Bool) → (entries : List (Node × Node)) → List Token → Parsed
  | 0, _, _, _ => none
  | fuel + 1, first, entries, tokens =>
    let entry (tokens : List Token) : Parsed :=
      match tokens with
      | .flowMappingEnd :: rest => some (.mapping entries.reverse, rest)
      | .key :: rest =>
        let keyRead : Parsed :=
          if comesNext [.value, .flowEntry, .flowMappingEnd] rest then some (.absent, rest)
          else node fuel false false rest
        match keyRead with
        | some (key, .value :: rest) =>
          let valueRead : Parsed :=
            if comesNext [.flowEntry, .flowMappingEnd] rest then some (.absent, rest)
            else node fuel false false rest
          match valueRead with
          | some (value, rest) => flowMapping fuel false ((key, value) :: entries) rest
          | none => none
        | some (key, rest) => flowMapping fuel false ((key, .absent) :: entries) rest
        | none => none
      | _ =>
        match node fuel false false tokens with
        | some (key, rest) => flowMapping fuel false ((key, .absent) :: entries) rest
        | none => none
    match first, tokens with
    | false, .flowEntry :: rest => entry rest
    | false, .flowMappingEnd :: _ => entry tokens
    | false, _ => none
    | true, _ => entry tokens

end

/-! ## Documents -/

/-- Enough fuel for the nodes of some tokens: one for each of them and one for what it opens. -/
def fuelFor (tokens : List Token) : Nat := 2 * tokens.length + 2

/-- The documents after one that has ended. Each of them begins with a mark. -/
def furtherDocuments : Nat → List Token → Option (List Node)
  | 0, _ => none
  | fuel + 1, tokens =>
    match tokens.dropWhile (· == .documentEnd) with
    | [] => some []
    | .documentStart :: rest => do
      if rest.isEmpty || comesNext [.documentStart, .documentEnd] rest then
        return .absent :: (← furtherDocuments fuel rest)
      else
        let (root, rest) ← node (fuelFor rest) true false rest
        return root :: (← furtherDocuments fuel rest)
    | _ => none

/-- The documents of a text. The first one needs no mark. -/
def documents (tokens : List Token) : Option (List Node) :=
  match tokens with
  | [] => some []
  | .documentStart :: _ => furtherDocuments (tokens.length + 1) tokens
  | _ => do
    let (root, rest) ← node (fuelFor tokens) true false tokens
    return root :: (← furtherDocuments (tokens.length + 1) rest)

/-- The root of a text with at most one document. -/
def parse? (text : String) : Option Node := do
  match ← documents (← tokens? text) with
  | [] => some .absent
  | [root] => some root
  | _ => none

end ScriptMachine.Yaml
