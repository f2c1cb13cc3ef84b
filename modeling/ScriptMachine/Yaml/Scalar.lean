import ScriptMachine.Number.Decimal
import ScriptMachine.Yaml.Cursor

/-!
# YAML scalars

Plain and quoted scalars may run over several lines. A single line end between two words is folded
into a space; of several, all but the first are kept.
-/

namespace ScriptMachine.Yaml

/-- The blanks and line ends between two words, last first. -/
structure Gap where
  blanks : List Char := []
  /-- A line end was met. -/
  folding : Bool := false
  first : List Char := []
  further : List Char := []

namespace Gap

def isEmpty (g : Gap) : Bool := g.blanks.isEmpty && !g.folding

/-- Takes in a blank or a line end. Blanks count only before the first line end. -/
def push (g : Gap) (c : Char) : Gap :=
  if isBreak c then
    if g.folding then { g with further := c :: g.further }
    else { g with blanks := [], folding := true, first := [c] }
  else if g.folding then g
  else { g with blanks := c :: g.blanks }

/-- What a gap contributes to the text, last character first. -/
def folded (g : Gap) : List Char :=
  if !g.folding then g.blanks
  else if g.first = ['\n'] then (if g.further.isEmpty then [' '] else g.further)
  else g.further ++ g.first

end Gap

/-- A scalar that was read, and what follows it. -/
structure ScalarRead where
  text : String
  rest : List Char
  cursor : Cursor
  /-- The scalar was ended by a new line. -/
  endsLine : Bool := false

/-! ## Plain scalars -/

def isFlowIndicator (c : Char) : Bool :=
  c == ',' || c == '[' || c == ']' || c == '{' || c == '}'

/-- A colon in flow context that is followed by an indicator, which no plain scalar may contain. -/
def isStrayColon (c : Char) (cs : List Char) : Bool :=
  c == ':' &&
    match cs with
    | d :: _ => d == '?' || isFlowIndicator d
    | [] => false

/-- Reads a plain scalar. In block context it ends before a line that is indented less than
`indent`. `text` holds what was read, last first, and `gap` what was read since the last word. -/
def plain (inFlow : Bool) (indent : Int) :
    List Char → Cursor → (text : List Char) → Gap → Option ScalarRead
  | [], p, text, gap => some ⟨String.ofList text.reverse, [], p, gap.folding⟩
  | c :: cs, p, text, gap =>
    let done : Option ScalarRead := some ⟨String.ofList text.reverse, c :: cs, p, gap.folding⟩
    if isSpace c || isBreak c then
      if gap.folding && p.column < indent && c == '\t' then none
      else plain inFlow indent cs (p.pass c) text (gap.push c)
    else if !gap.isEmpty && !inFlow && p.column < indent then done
    else if atDocumentMark p (c :: cs) then done
    else if c == '#' && (!gap.isEmpty || text.isEmpty) then done
    else if inFlow && isStrayColon c cs then none
    else if (c == ':' && atGap cs) || (inFlow && isFlowIndicator c) then done
    else plain inFlow indent cs (p.pass c) (c :: (gap.folded ++ text)) {}

/-! ## Quoted scalars -/

/-- Reads up to the closing single quote; a doubled quote stands for one. -/
def singleQuoted : List Char → Cursor → (text : List Char) → Gap → Option ScalarRead
  | [], _, _, _ => none
  | '\'' :: '\'' :: cs, p, text, gap =>
    singleQuoted cs ((p.pass '\'').pass '\'') ('\'' :: (gap.folded ++ text)) {}
  | c :: cs, p, text, gap =>
    if isSpace c || isBreak c then singleQuoted cs (p.pass c) text (gap.push c)
    else if atDocumentMark p (c :: cs) then none
    else if c == '\'' then
      some { text := String.ofList (gap.folded ++ text).reverse, rest := cs, cursor := p.pass c }
    else singleQuoted cs (p.pass c) (c :: (gap.folded ++ text)) {}

/-- The character of an escape with one letter. -/
def escaped? : Char → Option Char
  | '0' => some '\x00'
  | 'a' => some '\x07'
  | 'b' => some '\x08'
  | 't' => some '\t'
  | '\t' => some '\t'
  | 'n' => some '\n'
  | 'v' => some '\x0b'
  | 'f' => some '\x0c'
  | 'r' => some '\r'
  | 'e' => some '\x1b'
  | ' ' => some ' '
  | '"' => some '"'
  | '/' => some '/'
  | '\\' => some '\\'
  | 'N' => some '\u0085'
  | '_' => some '\u00A0'
  | 'L' => some '\u2028'
  | 'P' => some '\u2029'
  | _ => none

/-- The character with a number in base sixteen. -/
def numbered? (digits : List Char) : Option Char := do
  let n ← Number.digitsValue? 16 digits
  if n < 0xD800 || (0xDFFF < n && n ≤ 0x10FFFF) then some (Char.ofNat n) else none

/-- Reads up to the closing double quote. A line end after a backslash is not folded into a space. -/
def doubleQuoted : List Char → Cursor → (text : List Char) → Gap → Option ScalarRead
  | [], _, _, _ => none
  | '\\' :: 'x' :: a :: b :: cs, p, text, gap =>
    match numbered? [a, b] with
    | some c =>
      doubleQuoted cs ([a, b].foldl Cursor.pass ((p.pass '\\').pass 'x')) (c :: (gap.folded ++ text)) {}
    | none => none
  | '\\' :: 'u' :: a :: b :: c :: d :: cs, p, text, gap =>
    match numbered? [a, b, c, d] with
    | some e =>
      doubleQuoted cs ([a, b, c, d].foldl Cursor.pass ((p.pass '\\').pass 'u'))
        (e :: (gap.folded ++ text)) {}
    | none => none
  | '\\' :: 'U' :: a :: b :: c :: d :: e :: f :: g :: h :: cs, p, text, gap =>
    match numbered? [a, b, c, d, e, f, g, h] with
    | some i =>
      doubleQuoted cs ([a, b, c, d, e, f, g, h].foldl Cursor.pass ((p.pass '\\').pass 'U'))
        (i :: (gap.folded ++ text)) {}
    | none => none
  | '\\' :: c :: cs, p, text, gap =>
    if isBreak c then
      doubleQuoted cs ((p.pass '\\').pass c) (gap.folded ++ text) { folding := true }
    else
      match escaped? c with
      | some e => doubleQuoted cs ((p.pass '\\').pass c) (e :: (gap.folded ++ text)) {}
      | none => none
  | c :: cs, p, text, gap =>
    if isSpace c || isBreak c then doubleQuoted cs (p.pass c) text (gap.push c)
    else if atDocumentMark p (c :: cs) then none
    else if c == '"' then
      some { text := String.ofList (gap.folded ++ text).reverse, rest := cs, cursor := p.pass c }
    else doubleQuoted cs (p.pass c) (c :: (gap.folded ++ text)) {}

end ScriptMachine.Yaml
