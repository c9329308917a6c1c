import PairChat.Yaml.Token.Scalar

/-!
# Cutting a document into tokens

A `Lexer` goes through a document once.  Besides its place it knows the indentation of the blocks
that are open, how many flow collections are open, and where a key may have begun (`KeyMark`):
whether something was a key shows only at the colon after it, and the tokens for it are then put in
front of it.

`Token.scan` answers with all tokens of a document.  Where it cannot be cut any further the last
token carries the failure; of those before it, the ones that may still turn out to be a key are left
out.
-/

namespace PairChat.Yaml

/-- A place where a key may have begun. A required key has to be one. -/
structure KeyMark where
  position : Nat
  required : Bool
  index : Nat
  line : Nat
  column : Nat
deriving Repr

/-- The state of the cutting. The marks are kept by the number of open flow collections. -/
structure Lexer where
  cursor : Cursor
  tokens : Array Token := #[]
  indent : Int := -1
  outer : List Int := []
  depth : Nat := 0
  keyAllowed : Bool := true
  marks : List (Nat × KeyMark) := []

namespace Lexer

/-- How far from its beginning the colon of a key may stand. -/
def longestKey : Nat := 1024

variable (l : Lexer)

/-- Is no flow collection open? -/
def inBlock : Bool := l.depth == 0

/-- The lexer with one token more. -/
def push (t : Token) : Lexer := { l with tokens := l.tokens.push t }

/-- The lexer at another place. -/
def moveTo (c : Cursor) : Lexer := { l with cursor := c }

/-- The lexer after a mark of some characters. -/
def pass (n : Nat) (t : Token) : Lexer := (l.push t).moveTo (l.cursor.advance n)

/-! ### Indentation -/

/-- The blocks that are indented further than a column are closed. -/
def closeBlocks (column : Int) : Nat → Lexer → Lexer
  | 0, l => l
  | fuel + 1, l =>
    if column < l.indent then
      closeBlocks column fuel
        { l.push .blockEnd with indent := l.outer.headD (-1), outer := l.outer.tail }
    else l

/-- The blocks that are indented further than a column are closed, unless a flow collection is
open. -/
def unwind (column : Int) : Lexer :=
  if l.inBlock then closeBlocks column (l.outer.length + 1) l else l

/-- The lexer in a block at a column, and whether the block is new. -/
def openBlock (column : Nat) : Lexer × Bool :=
  if l.indent < column then ({ l with outer := l.indent :: l.outer, indent := column }, true)
  else (l, false)

/-- The lexer in a block at its place, with a token if the block is new. -/
def openBlockHere (t : Token) : Lexer :=
  match l.openBlock l.cursor.column with
  | (l, true) => l.push t
  | (l, false) => l

/-! ### Keys -/

/-- Can no colon reach the mark any more? -/
def isStale (m : KeyMark) : Bool := m.line != l.cursor.line || longestKey < l.cursor.index - m.index

/-- Marks that no colon can reach any more are dropped. -/
def dropStale : Except Failure Lexer :=
  if l.marks.any fun m => l.isStale m.2 && m.2.required then .error .badYaml
  else .ok { l with marks := l.marks.filter fun m => !l.isStale m.2 }

/-- The mark of the innermost collection is dropped. -/
def dropMark : Except Failure Lexer :=
  match l.marks.lookup l.depth with
  | some m =>
    if m.required then .error .badYaml
    else .ok { l with marks := l.marks.filter fun m => m.1 != l.depth }
  | none => .ok l

/-- A key may begin here. -/
def mark : Except Failure Lexer :=
  if l.keyAllowed then do
    let l ← l.dropMark
    let c := l.cursor
    let required := l.inBlock && l.indent == c.column
    return { l with
      marks := (l.depth, ⟨l.tokens.size, required, c.index, c.line, c.column⟩) :: l.marks }
  else .ok l

/-- The tokens with one put in at a position. -/
def insertAt (tokens : Array Token) (position : Nat) (t : Token) : Array Token :=
  tokens.extract 0 position ++ #[t] ++ tokens.extract position tokens.size

/-! ### Marks and scalars -/

/-- A mark before or after a document. -/
def documentMark (n : Nat) (t : Token) : Except Failure Lexer := do
  let l ← (l.unwind (-1)).dropMark
  return { l with keyAllowed := false }.pass n t

/-- The end of the document. -/
def finish : Except Failure Lexer := l.documentMark 0 .streamEnd

/-- A directive. -/
def directive : Except Failure Lexer := do
  let l ← (l.unwind (-1)).dropMark
  let (d, c) ← Reading.directive l.cursor
  return { l with keyAllowed := false }.push (.directive d) |>.moveTo c

/-- The beginning of a flow collection. -/
def openFlow (t : Token) : Except Failure Lexer := do
  let l ← l.mark
  return { l with depth := l.depth + 1, keyAllowed := true }.pass 1 t

/-- The end of a flow collection. -/
def closeFlow (t : Token) : Except Failure Lexer := do
  if l.inBlock then throw .badYaml
  let l ← l.dropMark
  return { l with depth := l.depth - 1, keyAllowed := false }.pass 1 t

/-- A comma. -/
def flowEntry : Except Failure Lexer := do
  return { ← l.dropMark with keyAllowed := true }.pass 1 .flowEntry

/-- A key may begin here, or nothing does. -/
def requireKey : Except Failure Unit := if l.keyAllowed then .ok () else .error .badYaml

/-- The hyphen before an item. -/
def entry : Except Failure Lexer := do
  let l ← if l.inBlock then do l.requireKey; pure (l.openBlockHere .blockSequence) else pure l
  return { ← l.dropMark with keyAllowed := true }.pass 1 .entry

/-- The question mark before a key. -/
def key : Except Failure Lexer := do
  let l ← if l.inBlock then do l.requireKey; pure (l.openBlockHere .blockMapping) else pure l
  return { ← l.dropMark with keyAllowed := l.inBlock }.pass 1 .key

/-- A colon after something that turns out to be a key. -/
def valueOf (m : KeyMark) : Lexer :=
  let l := { l with marks := l.marks.filter fun m => m.1 != l.depth, keyAllowed := false }
  let (l, isNew) := if l.inBlock then l.openBlock m.column else (l, false)
  let marks := if isNew then [Token.blockMapping, .key] else [.key]
  let tokens := marks.reverse.foldl (fun ts t => insertAt ts m.position t) l.tokens
  { l with tokens }.pass 1 .value

/-- A colon. -/
def value : Except Failure Lexer :=
  match l.marks.lookup l.depth with
  | some m => .ok (l.valueOf m)
  | none => do
    let l ← if l.inBlock then do l.requireKey; pure (l.openBlockHere .blockMapping) else pure l
    return { ← l.dropMark with keyAllowed := l.inBlock }.pass 1 .value

/-- Something that may be a key. -/
def node (read : Cursor → Except Failure (Token × Cursor)) : Except Failure Lexer := do
  let l ← l.mark
  let (t, c) ← read l.cursor
  return { l with keyAllowed := false }.push t |>.moveTo c

/-- A block scalar. -/
def blockScalar (folded : Bool) : Except Failure Lexer := do
  let l ← { l with keyAllowed := true }.dropMark
  let (s, c) ← Reading.block folded l.indent l.cursor
  return (l.push (.scalar s false)).moveTo c

/-- A plain scalar. After a line break another key may begin. -/
def plainScalar : Except Failure Lexer := do
  let l ← l.mark
  let (s, broke, c) := Reading.plain (l.indent + 1) (!l.inBlock) l.cursor
  return { l with keyAllowed := broke }.push (.scalar s true) |>.moveTo c

/-! ### The tokens of a document -/

/-- The place after blank lines and comments. -/
def skipBlank : Nat → Lexer → Lexer
  | 0, l => l
  | fuel + 1, l =>
    let (br, c) := l.cursor.skipSpaces.skipComment.lineBreak
    if br.isEmpty then l.moveTo c
    else skipBlank fuel { l.moveTo c with keyAllowed := l.keyAllowed || l.inBlock }

/-- The place after a byte order mark at the beginning. -/
def skipOrderMark : Lexer :=
  if l.cursor.index = 0 ∧ l.cursor.peek = some (Char.ofNat 0xFEFF) then l.moveTo l.cursor.next
  else l

/-- The characters that no plain scalar begins with, but for the first three if something follows
them. -/
def indicators : List Char := "-?:,[]\x7b\x7d#&*!|>'\"%@`".toList

/-- Does a plain scalar begin here? -/
def beginsPlain (ch : Char) : Bool :=
  !(isGap ch || indicators.contains ch)
    || (!orEnd isGap (l.cursor.peekAt 1) && (ch == '-' || (l.inBlock && (ch == '?' || ch == ':'))))

/-- The lexer after the token that comes next. -/
def step (ch : Char) : Except Failure Lexer :=
  let c := l.cursor
  let beforeGap := orEnd isGap (c.peekAt 1)
  if ch = '%' ∧ c.column = 0 then l.directive
  else if c.column = 0 ∧ c.atTriple '-' then l.documentMark 3 .documentStart
  else if c.column = 0 ∧ c.atTriple '.' then l.documentMark 3 .documentEnd
  else if ch = '[' then l.openFlow .flowSequence
  else if ch = '\x7b' then l.openFlow .flowMapping
  else if ch = ']' then l.closeFlow .flowSequenceEnd
  else if ch = '\x7d' then l.closeFlow .flowMappingEnd
  else if ch = ',' then l.flowEntry
  else if ch = '-' ∧ beforeGap then l.entry
  else if ch = '?' ∧ (!l.inBlock || beforeGap) then l.key
  else if ch = ':' ∧ (!l.inBlock || beforeGap) then l.value
  else if ch = '*' then l.node fun c => (Reading.name c).map fun (s, d) => (.alias s, d)
  else if ch = '&' then l.node fun c => (Reading.name c).map fun (s, d) => (.anchor s, d)
  else if ch = '!' then l.node fun c => (Reading.tag c).map fun (t, d) => (.tag t, d)
  else if ch = '|' ∧ l.inBlock then l.blockScalar false
  else if ch = '>' ∧ l.inBlock then l.blockScalar true
  else if ch = '\'' ∨ ch = '"' then
    l.node fun c => (Reading.quoted ch c).map fun (s, d) => (.scalar s false, d)
  else if l.beginsPlain ch then l.plainScalar
  else .error .badYaml

/-- The lexer after the token that comes next, and whether it was the last one. -/
def advance : Except Failure (Lexer × Bool) := do
  let l ← (skipBlank (l.cursor.rest.length + 1) l.skipOrderMark).dropStale
  let l := l.unwind l.cursor.column
  match l.cursor.peek with
  | none => return (← l.finish, true)
  | some ch => return (← l.step ch, false)

/-- The tokens before the first that may still turn out to be a key. -/
def settled : List Token :=
  let marks := (l.marks.filter fun m => !l.isStale m.2).map (·.2.position)
  (l.tokens.extract 0 (marks.foldl min l.tokens.size)).toList

/-- All tokens, with the failure at the end if there is one. -/
def run : Nat → Lexer → List Token
  | 0, l => l.settled ++ [.failed .badYaml]
  | fuel + 1, l =>
    match l.advance with
    | .ok (l, true) => l.tokens.toList
    | .ok (l, false) => run fuel l
    | .error f => l.settled ++ [.failed f]

end Lexer

/-! ### Characters -/

/-- The ranges of the characters that a document may hold. -/
def documentRanges : List (Nat × Nat) :=
  [(0x09, 0x0A), (0x0D, 0x0D), (0x20, 0x7E), (0x85, 0x85), (0xA0, 0xFFFD), (0x10000, 0x10FFFF)]

/-- May a document hold the character? -/
def isDocumentChar (c : Char) : Bool :=
  documentRanges.any fun r => r.1 ≤ c.toNat && c.toNat ≤ r.2

/-- **The tokens of a document.** -/
def Token.scan (s : String) : Except Failure (List Token) := do
  let cs := s.toList
  if !cs.all isDocumentChar then throw .badYaml
  return Lexer.run (cs.length + 2) { cursor := { rest := cs } }

end PairChat.Yaml
