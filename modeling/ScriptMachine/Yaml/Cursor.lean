/-!
# Places in a YAML text

Characters are read one after the other; a cursor knows how many were read and where in the text the
next one stands. Line ends are made alike before anything is read.
-/

namespace ScriptMachine.Yaml

/-- Characters that a text may contain. -/
def isPrintable (c : Char) : Bool :=
  let n := c.toNat
  n == 0x09 || n == 0x0A || n == 0x0D || (0x20 ≤ n && n ≤ 0x7E) || n == 0x85 ||
    (0xA0 ≤ n && n ≤ 0xFFFD) || 0x10000 ≤ n

/-- Line ends as line feeds. The line and paragraph separators are kept, since they are not folded. -/
def unifyBreaks : List Char → List Char
  | [] => []
  | '\r' :: '\n' :: cs => '\n' :: unifyBreaks cs
  | '\r' :: cs => '\n' :: unifyBreaks cs
  | '\u0085' :: cs => '\n' :: unifyBreaks cs
  | c :: cs => c :: unifyBreaks cs

def isBreak (c : Char) : Bool := c == '\n' || c == '\u2028' || c == '\u2029'

def isSpace (c : Char) : Bool := c == ' ' || c == '\t'

/-- The rest of a text is empty, or begins with a blank or a line end. -/
def atGap : List Char → Bool
  | [] => true
  | c :: _ => isSpace c || isBreak c

/-- The place of the next character. -/
structure Cursor where
  index : Nat := 0
  line : Nat := 0
  column : Nat := 0
  deriving Repr, DecidableEq

def Cursor.pass (p : Cursor) (c : Char) : Cursor :=
  if isBreak c then ⟨p.index + 1, p.line + 1, 0⟩ else ⟨p.index + 1, p.line, p.column + 1⟩

/-- A line that begins or ends a document stands here. -/
def atDocumentMark (p : Cursor) : List Char → Bool
  | '-' :: '-' :: '-' :: cs => p.column == 0 && atGap cs
  | '.' :: '.' :: '.' :: cs => p.column == 0 && atGap cs
  | _ => false

/-- Passes over blanks, comments and line ends up to the next token. A tab counts as a blank only
where it cannot be indentation. In block context a line end allows a key to follow. -/
def skipToToken (inFlow : Bool) :
    List Char → Cursor → (keyAllowed inComment : Bool) → List Char × Cursor × Bool
  | [], p, keyAllowed, _ => ([], p, keyAllowed)
  | c :: cs, p, keyAllowed, inComment =>
    if isBreak c then skipToToken inFlow cs (p.pass c) (keyAllowed || !inFlow) false
    else if inComment then skipToToken inFlow cs (p.pass c) keyAllowed true
    else if c == '#' then skipToToken inFlow cs (p.pass c) keyAllowed true
    else if c == ' ' || (c == '\t' && (inFlow || !keyAllowed)) || (c == '\uFEFF' && p.index == 0) then
      skipToToken inFlow cs (p.pass c) keyAllowed false
    else (c :: cs, p, keyAllowed)

end ScriptMachine.Yaml
