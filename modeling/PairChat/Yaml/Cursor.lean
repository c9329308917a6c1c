/-!
# Cursors: a place in a document

A `Cursor` is what is left of a text, with the line and the column that were reached.  A line ends
with a line feed, a carriage return, both together, the next-line character, or one of the two
Unicode separators; a line break is read as a line feed, but for the two separators
(`Cursor.lineBreak`).
-/

namespace PairChat.Yaml

/-! ### Classes of characters -/

/-- Does the character end a line? -/
def isBreak (c : Char) : Bool :=
  c == '\n' || c == '\r' || c.toNat == 0x85 || c.toNat == 0x2028 || c.toNat == 0x2029

/-- A space, a tab, or the end of a line. -/
def isGap (c : Char) : Bool := c == ' ' || c == '\t' || isBreak c

/-- An ASCII letter or digit, a hyphen or an underscore. -/
def isWordChar (c : Char) : Bool := c.isAlphanum || c == '-' || c == '_'

/-- Is there a character of the class, or nothing any more? -/
def orEnd (p : Char → Bool) : Option Char → Bool
  | none => true
  | some c => p c

/-- A place in a text. -/
structure Cursor where
  rest : List Char
  index : Nat := 0
  line : Nat := 0
  column : Nat := 0
deriving Repr

namespace Cursor

variable (c : Cursor)

/-- The next character. -/
def peek : Option Char := c.rest.head?

/-- A character further on. -/
def peekAt (n : Nat) : Option Char := c.rest[n]?

/-- Is the next character of the class? -/
def sees (p : Char → Bool) : Bool := c.peek.any p

/-- The place after the next character. The byte order mark takes no column. -/
def next : Cursor :=
  match c.rest with
  | [] => c
  | ch :: rest =>
    if isBreak ch && !(ch == '\r' && rest.head? == some '\n') then
      ⟨rest, c.index + 1, c.line + 1, 0⟩
    else ⟨rest, c.index + 1, c.line, if ch.toNat == 0xFEFF then c.column else c.column + 1⟩

/-- The place after some characters. -/
def advance : Nat → Cursor → Cursor
  | 0, c => c
  | n + 1, c => advance n c.next

/-- The characters of a class that come next, and the place after them. -/
def span (p : Char → Bool) : List Char × Cursor :=
  let cs := c.rest.takeWhile p
  (cs, c.advance cs.length)

/-- The place after the characters of a class that come next. -/
def skip (p : Char → Bool) : Cursor := (c.span p).2

/-- The place after the spaces that come next. -/
def skipSpaces : Cursor := c.skip (· == ' ')

/-- The place after a comment. -/
def skipComment : Cursor := if c.peek == some '#' then c.skip fun ch => !isBreak ch else c

/-- The line break that comes next as it is read, nothing if there is none, and the place after
it. -/
def lineBreak : List Char × Cursor :=
  match c.rest with
  | '\r' :: '\n' :: _ => (['\n'], c.advance 2)
  | ch :: _ =>
    if isBreak ch then ([if ch.toNat == 0x2028 || ch.toNat == 0x2029 then ch else '\n'], c.next)
    else ([], c)
  | [] => ([], c)

/-- Do three of the character come next, and then a gap or the end? -/
def atTriple (mark : Char) : Bool :=
  c.rest.take 3 == [mark, mark, mark] && orEnd isGap (c.peekAt 3)

/-- Does a mark between documents come next? -/
def atMark : Bool := c.atTriple '-' || c.atTriple '.'

end Cursor

end PairChat.Yaml
