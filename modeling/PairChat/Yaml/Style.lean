import PairChat.Text.Halves
import PairChat.Value.Shown
import PairChat.Text.Bytes
import PairChat.Yaml.Cursor
import PairChat.Yaml.Tag

/-!
# Styles of scalars: plain, in single or in double quotes

A scalar is written plain if it can be: if its form shows what it is, and if nothing in it would be
taken for a mark. Otherwise it stands in single quotes, where a quote is written twice, and in
double quotes if there are characters in it that need an escape.  Only ASCII is written.

Long scalars are folded: a single space becomes a line break once the line has more than `bestWidth`
characters.
-/

namespace PairChat.Yaml

/-- How a scalar is written. -/
inductive Style where
  | plain
  | single
  | double
deriving DecidableEq, Repr

/-! ### Choosing a style -/

/-- The line that is long enough. -/
def bestWidth : Nat := 80

/-- How many columns a block is indented further than the one around it. -/
def indentWidth : Nat := 2

/-- Does the character count as a gap between words, the end of the text included? -/
def isWriteGap (c : Option Char) : Bool := orEnd (fun ch => isGap ch || ch.toNat == 0) c

/-- Can the character only be written as an escape? -/
def needsEscape (c : Char) : Bool := c != '\n' && !(0x20 ≤ c.toNat && c.toNat ≤ 0x7E)

/-- The marks that no plain scalar begins with. -/
def openingMarks : List Char := "#,[]\x7b\x7d&*!|>'\"%@`".toList

/-- Would the first character be taken for a mark? -/
def opensWithMark : List Char → Bool
  | [] => false
  | c :: cs => openingMarks.contains c
      || ((c == '?' || c == ':' || c == '-') && isWriteGap cs.head?)

/-- Would a character after the first be taken for a mark? -/
def hasInnerMark : Char → List Char → Bool
  | _, [] => false
  | before, c :: cs => (c == ':' && isWriteGap cs.head?) || (c == '#' && isWriteGap (some before))
      || hasInnerMark c cs

/-- Would anything in the text be taken for a mark? -/
def hasMark (cs : List Char) : Bool :=
  "---".toList.isPrefixOf cs || "...".toList.isPrefixOf cs || opensWithMark cs
    || match cs with
      | [] => false
      | c :: cs => hasInnerMark c cs

/-- Does one of the pairs of characters occur? -/
def hasPair (p : Char → Char → Bool) (cs : List Char) : Bool :=
  (cs.zip cs.tail).any fun (a, b) => p a b

/-- A space or a line feed. -/
def isFoldable (c : Char) : Bool := c == ' ' || c == '\n'

/-- Can the text stand in single quotes? -/
def fitsSingle (cs : List Char) : Bool :=
  !cs.any needsEscape && !hasPair (fun a b => a != b && isFoldable a && isFoldable b) cs

/-- Can the text stand without quotes? -/
def fitsPlain (cs : List Char) : Bool :=
  fitsSingle cs && !cs.contains '\n' && !cs.head?.any isFoldable && !cs.getLast?.any isFoldable
    && !hasMark cs

/-- **The style of a text**, which may stand where only one line is allowed. -/
def styleOf (oneLine : Bool) (s : String) : Style :=
  let cs := s.toList
  if Tag.ofPlain s = .text && fitsPlain cs then .plain
  else if fitsSingle cs && !(oneLine && cs.contains '\n') then .single
  else .double

/-! ### Writing a scalar -/

/-- A line break and an indentation. -/
def breakTo (indent : Nat) : List Char := '\n' :: List.replicate indent ' '

/-- The length of the run of characters like the first one. -/
def runLength (p : Char → Bool) (cs : List Char) : Nat := (cs.takeWhile p).length

/-- The text of a plain or single-quoted scalar from some column on. A single space becomes a line
break if the line is long; spaces at the ends of a quoted text do not. Each line feed is written as
one more than there are. -/
def foldedFrom (fold : Bool) (indent : Nat) : Nat → Bool → Nat → List Char → List Char
  | 0, _, _, cs => cs
  | _, _, _, [] => []
  | fuel + 1, first, column, c :: cs =>
    if c = ' ' then
      let n := runLength (· == ' ') cs
      let rest := cs.drop n
      if fold && n = 0 && bestWidth < column && !first && !rest.isEmpty then
        breakTo indent ++ foldedFrom fold indent fuel false indent rest
      else List.replicate (n + 1) ' ' ++ foldedFrom fold indent fuel false (column + n + 1) rest
    else if c = '\n' then
      let n := runLength (· == '\n') cs
      List.replicate (n + 1) '\n' ++ breakTo indent
        ++ foldedFrom fold indent fuel false indent (cs.drop n)
    else if c = '\'' then '\'' :: '\'' :: foldedFrom fold indent fuel false (column + 2) cs
    else c :: foldedFrom fold indent fuel false (column + 1) cs

/-- The words of a plain scalar from some column on. -/
def plainFrom (fold : Bool) (indent : Nat) : Nat → Nat → List Char → List Char
  | 0, _, cs => cs
  | _, _, [] => []
  | fuel + 1, column, c :: cs =>
    if c = ' ' then
      let n := runLength (· == ' ') cs
      if fold && n = 0 && bestWidth < column then
        breakTo indent ++ plainFrom fold indent fuel indent cs
      else List.replicate (n + 1) ' ' ++ plainFrom fold indent fuel (column + n + 1) (cs.drop n)
    else c :: plainFrom fold indent fuel (column + 1) cs

/-- A number in hexadecimal digits of upper case. -/
def upperHex (width n : Nat) : List Char := (Text.hexDigits width n).map Char.toUpper

/-- The letters of the escapes that have one. -/
def escapeLetters : List (Nat × Char) :=
  [(0x00, '0'), (0x07, 'a'), (0x08, 'b'), (0x09, 't'), (0x0A, 'n'), (0x0B, 'v'), (0x0C, 'f'),
    (0x0D, 'r'), (0x1B, 'e'), (0x22, '"'), (0x5C, '\\'), (0x85, 'N'), (0xA0, '_'), (0x2028, 'L'),
    (0x2029, 'P')]

/-- The escape of a character, if it needs one in double quotes. -/
def escape? (c : Char) : Option (List Char) :=
  let n := c.toNat
  if 0x20 ≤ n ∧ n ≤ 0x7E ∧ c ≠ '"' ∧ c ≠ '\\' then none
  else some <| match escapeLetters.lookup n with
    | some letter => ['\\', letter]
    | none =>
      if n ≤ 0xFF then '\\' :: 'x' :: upperHex 2 n
      else if n ≤ 0xFFFF then '\\' :: 'u' :: upperHex 4 n
      else '\\' :: 'U' :: upperHex 8 n

/-- A piece of a text as an escape, or the character that it is. -/
def escaped : Text.Piece → List Char ⊕ Char
  | .char c => match escape? c with
    | some escape => .inl escape
    | none => .inr c
  | .half unit => .inl ('\\' :: 'u' :: upperHex 4 unit)

/-- A backslash before a space at the beginning of a line, which would be lost without it. -/
def guardSpace (next : Option Text.Piece) : List Char :=
  if next == some (.char ' ') then ['\\'] else []

/-- The text in double quotes from a position and a column on, after some characters that are not
yet written, last first. A long line is broken before a space and around escapes, with a backslash
at its end. -/
def doubleFrom (fold : Bool) (indent length : Nat) :
    Nat → List Char → Nat → List Text.Piece → List Char
  | _, pending, _, [] => pending.reverse
  | i, pending, column, p :: ps =>
    let isInside := fold && 0 < i && i + 1 < length
    match escaped p with
    | .inl escape =>
      let column := column + pending.length + escape.length
      let written := pending.reverse ++ escape
      if isInside && bestWidth + 1 < column then
        let guarded := guardSpace ps.head?
        written ++ '\\' :: breakTo indent ++ guarded
          ++ doubleFrom fold indent length (i + 1) [] (indent + guarded.length) ps
      else written ++ doubleFrom fold indent length (i + 1) [] column ps
    | .inr c =>
      if isInside && (c = ' ' || pending.isEmpty) && bestWidth < column + pending.length then
        let guarded := guardSpace (some p)
        pending.reverse ++ '\\' :: breakTo indent ++ guarded
          ++ doubleFrom fold indent length (i + 1) [c] (indent + guarded.length) ps
      else doubleFrom fold indent length (i + 1) (c :: pending) column ps

/-- **A text in a style**, from a column on. Further lines are indented. -/
def styled (style : Style) (fold : Bool) (indent column : Nat) (s : String) : String :=
  let cs := s.toList
  String.ofList <| match style with
  | .plain => plainFrom fold indent (cs.length + 1) column cs
  | .single => '\'' :: foldedFrom fold indent (cs.length + 1) true (column + 1) cs ++ ['\'']
  | .double =>
    let ps := Text.pieces cs
    '"' :: doubleFrom fold indent ps.length 0 [] (column + 1) ps ++ ['"']

end PairChat.Yaml
