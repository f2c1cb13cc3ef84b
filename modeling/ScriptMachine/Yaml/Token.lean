import ScriptMachine.Yaml.Scalar

/-!
# YAML tokens

The scanner turns indentation into tokens that open and close blocks. Whether something is a key
shows only at the colon behind it, so a place where a key might begin is kept in mind, and the tokens
that begin a key are inserted there later.

Anchors, aliases, tags, directives and block scalars are not part of the language.
-/

namespace ScriptMachine.Yaml

inductive Token where
  | documentStart
  | documentEnd
  | blockSequenceStart
  | blockMappingStart
  | blockEnd
  | flowSequenceStart
  | flowSequenceEnd
  | flowMappingStart
  | flowMappingEnd
  | blockEntry
  | flowEntry
  | key
  | value
  | scalar (plain : Bool) (text : String)
  deriving Repr, DecidableEq

/-- A place where a key might have begun. -/
structure KeyPlace where
  /-- The number of tokens before it. -/
  token : Nat
  cursor : Cursor
  /-- In this place nothing but a key can stand. -/
  required : Bool

structure Scanner where
  rest : List Char
  cursor : Cursor := {}
  /-- A key may begin here. -/
  keyAllowed : Bool := true
  /-- The column of the innermost block, and those around it. -/
  indent : Int := -1
  outerIndents : List Int := []
  /-- The possible key of the block context and of each flow collection, innermost first. -/
  keyPlaces : List (Option KeyPlace) := [none]
  tokens : Array Token := #[]

namespace Scanner

def inFlow (s : Scanner) : Bool := 1 < s.keyPlaces.length

def emit (s : Scanner) (t : Token) : Scanner := { s with tokens := s.tokens.push t }

def column (s : Scanner) : Int := s.cursor.column

/-- Passes over the next `n` characters. -/
def skip : Nat → Scanner → Scanner
  | 0, s => s
  | n + 1, s =>
    match s.rest with
    | [] => s
    | c :: cs => skip n { s with rest := cs, cursor := s.cursor.pass c }

/-! ## Keys -/

def keyPlace (s : Scanner) : Option KeyPlace := s.keyPlaces.head?.join

def setKeyPlace (s : Scanner) (k : Option KeyPlace) : Scanner :=
  { s with keyPlaces := k :: s.keyPlaces.drop 1 }

/-- Gives up the possible key of this context, unless it is required. -/
def dropKey (s : Scanner) : Option Scanner :=
  match s.keyPlace with
  | some k => if k.required then none else some (s.setKeyPlace none)
  | none => some s

/-- A key is on one line and has at most 1024 characters. -/
def isStale (s : Scanner) (k : KeyPlace) : Bool :=
  k.cursor.line < s.cursor.line || k.cursor.index + 1024 < s.cursor.index

/-- Gives up every possible key that has become too long. -/
def dropStaleKeys (s : Scanner) : Option Scanner := do
  let keyPlaces ← s.keyPlaces.mapM fun
    | some k => if s.isStale k then (if k.required then none else some none) else some (some k)
    | none => some none
  return { s with keyPlaces }

/-- Keeps in mind that a key may begin here. -/
def markKey (s : Scanner) : Option Scanner :=
  if s.keyAllowed then do
    let s ← s.dropKey
    return s.setKeyPlace (some {
      token := s.tokens.size
      cursor := s.cursor
      required := !s.inFlow && s.indent == s.column })
  else some s

/-! ## Blocks -/

/-- Opens a block at a column, before the token with the given number, if it lies deeper than the
innermost block. -/
def openBlock (s : Scanner) (column : Int) (before : Nat) (t : Token) : Scanner :=
  if !s.inFlow && s.indent < column then
    { s with
      indent := column
      outerIndents := s.indent :: s.outerIndents
      tokens := s.tokens.insertIdxIfInBounds before t }
  else s

/-- Closes the blocks of these columns that lie deeper than a column. -/
def closeBlocksTo (column : Int) : List Int → Scanner → Scanner
  | [], s => s
  | outer :: outers, s =>
    if column < s.indent then
      closeBlocksTo column outers { (s.emit .blockEnd) with indent := outer, outerIndents := outers }
    else s

def closeBlocks (s : Scanner) (column : Int) : Scanner :=
  if s.inFlow then s else closeBlocksTo column s.outerIndents s

/-! ## Tokens one by one -/

def scanDocumentMark (s : Scanner) (t : Token) : Option Scanner := do
  let s ← (s.closeBlocks (-1)).dropKey
  return ({ s with keyAllowed := false }.skip 3).emit t

def scanFlowStart (s : Scanner) (t : Token) : Option Scanner := do
  let s ← s.markKey
  return ({ s with keyPlaces := none :: s.keyPlaces, keyAllowed := true }.skip 1).emit t

def scanFlowEnd (s : Scanner) (t : Token) : Option Scanner := do
  let s ← s.dropKey
  let keyPlaces := if s.inFlow then s.keyPlaces.drop 1 else s.keyPlaces
  return ({ s with keyPlaces, keyAllowed := false }.skip 1).emit t

def scanFlowEntry (s : Scanner) : Option Scanner := do
  let s ← s.dropKey
  return ({ s with keyAllowed := true }.skip 1).emit .flowEntry

def scanBlockEntry (s : Scanner) : Option Scanner := do
  guard (s.inFlow || s.keyAllowed)
  let s ← (s.openBlock s.column s.tokens.size .blockSequenceStart).dropKey
  return ({ s with keyAllowed := true }.skip 1).emit .blockEntry

def scanKey (s : Scanner) : Option Scanner := do
  guard (s.inFlow || s.keyAllowed)
  let s ← (s.openBlock s.column s.tokens.size .blockMappingStart).dropKey
  return ({ s with keyAllowed := !s.inFlow }.skip 1).emit .key

/-- A colon. If a key may have begun before it on this line, that was a key. -/
def scanValue (s : Scanner) : Option Scanner :=
  match s.keyPlace with
  | some k =>
    let s := { s with tokens := s.tokens.insertIdxIfInBounds k.token .key }
    let s := s.openBlock k.cursor.column k.token .blockMappingStart
    some (({ s.setKeyPlace none with keyAllowed := false }.skip 1).emit .value)
  | none => do
    guard (s.inFlow || s.keyAllowed)
    let s := s.openBlock s.column s.tokens.size .blockMappingStart
    return ({ s with keyAllowed := !s.inFlow }.skip 1).emit .value

def takeScalar (s : Scanner) (isPlain : Bool) (r : ScalarRead) : Scanner :=
  { s with rest := r.rest, cursor := r.cursor, keyAllowed := r.endsLine }.emit
    (.scalar isPlain r.text)

def scanQuoted (s : Scanner) (read? : List Char → Cursor → List Char → Gap → Option ScalarRead) :
    Option Scanner := do
  let s ← s.markKey
  let opened := s.skip 1
  let r ← read? opened.rest opened.cursor [] {}
  return s.takeScalar false r

def scanPlain (s : Scanner) : Option Scanner := do
  let s ← s.markKey
  let r ← plain s.inFlow (s.indent + 1) s.rest s.cursor [] {}
  return s.takeScalar true r

/-- Characters that begin something other than a plain scalar. -/
def isIndicator (c : Char) : Bool := c ∈ "-?:,[]{}#&*!|>'\"%@`".toList

/-- A plain scalar may begin here. -/
def startsPlain (inFlow : Bool) (c : Char) (cs : List Char) : Bool :=
  !(isSpace c || isBreak c || isIndicator c) ||
    (c == '-' && !atGap cs) ||
    (!inFlow && (c == '?' || c == ':') && !atGap cs)

/-- Scans the token that begins with the next character. -/
def scanToken (s : Scanner) (c : Char) (cs : List Char) : Option Scanner :=
  if atDocumentMark s.cursor (c :: cs) then
    s.scanDocumentMark (if c == '-' then .documentStart else .documentEnd)
  else if c == '[' then s.scanFlowStart .flowSequenceStart
  else if c == '{' then s.scanFlowStart .flowMappingStart
  else if c == ']' then s.scanFlowEnd .flowSequenceEnd
  else if c == '}' then s.scanFlowEnd .flowMappingEnd
  else if c == ',' then s.scanFlowEntry
  else if c == '-' && atGap cs then s.scanBlockEntry
  else if c == '?' && (s.inFlow || atGap cs) then s.scanKey
  else if c == ':' && (s.inFlow || atGap cs) then s.scanValue
  else if c == '\'' then s.scanQuoted singleQuoted
  else if c == '"' then s.scanQuoted doubleQuoted
  else if startsPlain s.inFlow c cs then s.scanPlain
  else none

/-- Ends the text: every block is closed, and no required key may be open. -/
def finish (s : Scanner) : Option Scanner := (s.closeBlocks (-1)).dropKey

/-- Scans token after token. Each of them takes at least one character, so there are at most `fuel`
of them when that many characters are left. -/
def scan : Nat → Scanner → Option Scanner
  | 0, _ => none
  | fuel + 1, s => do
    let (rest, cursor, keyAllowed) := skipToToken s.inFlow s.rest s.cursor s.keyAllowed false
    let s ← { s with rest, cursor, keyAllowed }.dropStaleKeys
    let s := s.closeBlocks s.column
    match s.rest with
    | [] => s.finish
    | c :: cs => scan fuel (← s.scanToken c cs)

end Scanner

/-- The tokens of a text. A mark of the byte order in front is no part of it. -/
def tokens? (text : String) : Option (List Token) := do
  let cs := match text.toList with
    | '\uFEFF' :: cs => cs
    | cs => cs
  guard (cs.all isPrintable)
  let s ← Scanner.scan (cs.length + 1) { rest := unifyBreaks cs }
  return s.tokens.toList

end ScriptMachine.Yaml
