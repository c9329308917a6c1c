import PairChat.Failure
import PairChat.Web.Percent
import PairChat.Yaml.Cursor
import PairChat.Yaml.Token

/-!
# Reading scalars, names and tags

Each function reads one piece of a document at a cursor and answers with what was read and the place
after it.

* plain scalars end before a comment, before a colon with a gap after it, and where the block they
  stand in ends;
* quoted scalars end at their quote; in double quotes a backslash introduces an escape;
* block scalars hold the lines that are indented, kept or folded;
* a single line break in a flow scalar or a folded one is read as a space, and further ones are
  kept.
-/

namespace PairChat.Yaml

namespace Reading

/-! ### Folding -/

/-- A line break followed by others in a flow scalar: a single line feed is a space. -/
def fold (first others : List Char) : List Char :=
  (if first != ['\n'] then first else if others.isEmpty then [' '] else []) ++ others

/-! ### Plain scalars -/

/-- The indicators that end a plain scalar inside a flow collection. -/
def isFlowMark (c : Char) : Bool := c == ',' || c == '[' || c == ']' || c == '\x7b' || c == '\x7d'

/-- How many characters belong to the run of a plain scalar that comes next. -/
def plainRun (inFlow : Bool) : List Char → Nat
  | [] => 0
  | ch :: cs =>
    let endsKey := ch == ':' && orEnd (fun d => isGap d || (inFlow && isFlowMark d)) cs.head?
    if isGap ch || endsKey || (inFlow && (isFlowMark ch || ch == '?')) then 0
    else plainRun inFlow cs + 1

/-- The line breaks after the first one inside a plain scalar, with spaces between them; `none` if a
mark between documents comes after one of them. -/
def plainBreaks : Nat → Cursor → Option (List Char) × Cursor
  | 0, c => (some [], c)
  | fuel + 1, c =>
    if c.peek == some ' ' then plainBreaks fuel c.next
    else
      let (br, d) := c.lineBreak
      if br.isEmpty then (some [], c)
      else if d.atMark then (none, d)
      else
        let (more, e) := plainBreaks fuel d
        (more.map (br ++ ·), e)

/-- What stands between two runs of a plain scalar, nothing if the scalar ends there, and whether
there was a line break. -/
def plainGap (c : Cursor) : List Char × Bool × Cursor :=
  let (spaces, c) := c.span (· == ' ')
  let (br, d) := c.lineBreak
  if br.isEmpty then (spaces, false, c)
  else if d.atMark then ([], true, d)
  else match plainBreaks (d.rest.length + 1) d with
    | (none, e) => ([], true, e)
    | (some others, e) => (fold br others, true, e)

/-- The runs of a plain scalar, and whether a line break came after the last one. -/
def plainRuns (indent : Int) (inFlow : Bool) : Nat → List Char → Cursor → List Char × Bool × Cursor
  | 0, _, c => ([], false, c)
  | fuel + 1, gap, c =>
    let n := if c.peek == some '#' then 0 else plainRun inFlow c.rest
    let run := gap ++ c.rest.take n
    let (gap, broke, d) := plainGap (c.advance n)
    if gap.isEmpty || d.peek == some '#' || (!inFlow && (d.column : Int) < indent) then
      (run, broke, d)
    else if plainRun inFlow d.rest = 0 then (run, broke, d)
    else
      let (more, broke, e) := plainRuns indent inFlow fuel gap d
      (run ++ more, broke, e)

/-- **A plain scalar**, and whether a line break came after it. -/
def plain (indent : Int) (inFlow : Bool) (c : Cursor) : String × Bool × Cursor :=
  let (cs, broke, d) := plainRuns indent inFlow (c.rest.length + 1) [] c
  (String.ofList cs, broke, d)

/-! ### Quoted scalars -/

/-- The characters that an escape with one letter stands for. -/
def escapes : List (Char × Nat) :=
  [('0', 0x00), ('a', 0x07), ('b', 0x08), ('t', 0x09), ('\t', 0x09), ('n', 0x0A), ('v', 0x0B),
    ('f', 0x0C), ('r', 0x0D), ('e', 0x1B), (' ', 0x20), ('"', 0x22), ('/', 0x2F), ('\\', 0x5C),
    ('N', 0x85), ('_', 0xA0), ('L', 0x2028), ('P', 0x2029)]

/-- How many hexadecimal digits an escape has. -/
def escapeWidths : List (Char × Nat) := [('x', 2), ('u', 4), ('U', 8)]

/-- The number that hexadecimal digits write. -/
def hexNumber? (cs : List Char) : Option Nat :=
  cs.foldlM (fun n c => (Web.Percent.hexValue? c).map (16 * n + ·)) 0

/-- The line breaks that come next in a quoted scalar, with spaces and tabs around them. -/
def quotedBreaks : Nat → Cursor → Except Failure (List Char × Cursor)
  | 0, c => .ok ([], c)
  | fuel + 1, c =>
    if c.atMark then .error .badYaml
    else
      let c := c.skip fun ch => ch == ' ' || ch == '\t'
      let (br, d) := c.lineBreak
      if br.isEmpty then .ok ([], c)
      else do
        let (more, e) ← quotedBreaks fuel d
        return (br ++ more, e)

/-- What stands between two words of a quoted scalar. -/
def quotedGap (c : Cursor) : Except Failure (List Char × Cursor) :=
  let (spaces, c) := c.span fun ch => ch == ' ' || ch == '\t'
  let (br, d) := c.lineBreak
  if c.rest.isEmpty then .error .badYaml
  else if br.isEmpty then .ok (spaces, c)
  else do
    let (others, e) ← quotedBreaks (d.rest.length + 1) d
    return (fold br others, e)

/-- An escape, from the character after the backslash on. -/
def escape (c : Cursor) : Except Failure (List Char × Cursor) :=
  match c.peek with
  | none => .error .badYaml
  | some ch =>
    match escapes.lookup ch, escapeWidths.lookup ch with
    | some code, _ => .ok ([Char.ofNat code], c.next)
    | none, some width =>
      let digits := c.next.rest.take width
      match if digits.length = width then hexNumber? digits else none with
      | none => .error .badYaml
      | some code =>
        if 0x80000000 ≤ code then .error (.shape .overflow)
        else if 0x110000 ≤ code then .error (.shape .value)
        else .ok (Text.ofUnit code, c.next.advance width)
    | none, none =>
      let (br, d) := c.lineBreak
      if br.isEmpty then .error .badYaml else quotedBreaks (d.rest.length + 1) d

/-- Does the character end a run of a quoted scalar? -/
def endsQuotedRun (c : Char) : Bool := c == '\'' || c == '"' || c == '\\' || isGap c

/-- The rest of a quoted scalar up to its quote. -/
def quotedRest (quote : Char) : Nat → Cursor → Except Failure (List Char × Cursor)
  | 0, _ => .error .badYaml
  | fuel + 1, c => do
    let (run, c) := c.span fun ch => !endsQuotedRun ch
    let (piece, d) ←
      match c.peek with
      | none => .error .badYaml
      | some ch =>
        if ch = quote then
          if quote = '\'' && c.peekAt 1 == some '\'' then .ok (some ['\''], c.advance 2)
          else .ok (none, c.next)
        else if ch = '\\' && quote = '"' then (escape c.next).map fun (cs, d) => (some cs, d)
        else if isGap ch then (quotedGap c).map fun (cs, d) => (some cs, d)
        else .ok (some [ch], c.next)
    match piece with
    | none => return (run, d)
    | some cs =>
      let (more, e) ← quotedRest quote fuel d
      return (run ++ cs ++ more, e)

/-- **A quoted scalar**, from its quote on. -/
def quoted (quote : Char) (c : Cursor) : Except Failure (String × Cursor) := do
  let (cs, d) ← quotedRest quote (c.rest.length + 1) c.next
  return (String.ofList cs, d)

/-! ### Block scalars -/

/-- What is done with the line breaks at the end of a block scalar. -/
inductive Chomping where
  | strip
  | clip
  | keep
deriving DecidableEq, Repr

/-- The marks after the indicator of a block scalar: what happens to line breaks at the end, and how
far the lines are indented. -/
def blockMarks (c : Cursor) : Except Failure ((Chomping × Option Nat) × Cursor) := do
  let chomping? (c : Cursor) : Option Chomping × Cursor :=
    match c.peek with
    | some '+' => (some .keep, c.next)
    | some '-' => (some .strip, c.next)
    | _ => (none, c)
  let width? (c : Cursor) : Except Failure (Option Nat × Cursor) :=
    match c.peek with
    | some ch =>
      if ch = '0' then .error .badYaml
      else if ch.isDigit then .ok (some (ch.toNat - '0'.toNat), c.next)
      else .ok (none, c)
    | none => .ok (none, c)
  let (before, c) := chomping? c
  let (width, c) ← width? c
  let (after, c) := if before.isNone && width.isSome then chomping? c else (none, c)
  if orEnd (fun ch => ch == ' ' || isBreak ch) c.peek then
    return ((((before.orElse fun _ => after).getD .clip), width), c)
  else throw .badYaml

/-- The rest of a line that holds a comment at most. -/
def restOfLine (c : Cursor) : Except Failure Cursor :=
  let c := c.skipSpaces.skipComment
  if orEnd isBreak c.peek then .ok c.lineBreak.2 else .error .badYaml

/-- The blank lines at the beginning of a block scalar, and the largest column that was reached in
them. -/
def blockLead : Nat → Nat → Cursor → List Char × Nat × Cursor
  | 0, widest, c => ([], widest, c)
  | fuel + 1, widest, c =>
    if c.peek == some ' ' then blockLead fuel (max widest c.next.column) c.next
    else
      let (br, d) := c.lineBreak
      if br.isEmpty then ([], widest, c)
      else
        let (more, widest, e) := blockLead fuel widest d
        (br ++ more, widest, e)

/-- The place after the spaces up to a column. -/
def skipIndent (indent : Nat) (c : Cursor) : Cursor :=
  c.advance (min (indent - c.column) (c.rest.takeWhile (· == ' ')).length)

/-- The blank lines between the lines of a block scalar. -/
def blockBreaks (indent : Nat) : Nat → Cursor → List Char × Cursor
  | 0, c => ([], c)
  | fuel + 1, c =>
    let c := skipIndent indent c
    let (br, d) := c.lineBreak
    if br.isEmpty then ([], c)
    else
      let (more, e) := blockBreaks indent fuel d
      (br ++ more, e)

/-- The lines of a block scalar from the first on, its last line break and the blank lines after
it. -/
def blockLines (folded : Bool) (indent : Nat) :
    Nat → List Char → Cursor → List Char × List Char × List Char × Cursor
  | 0, blank, c => ([], [], blank, c)
  | fuel + 1, blank, c =>
    if c.column ≠ indent ∨ c.rest = [] then ([], [], blank, c)
    else
      let isIndented := c.sees fun ch => ch == ' ' || ch == '\t'
      let (line, d) := c.span fun ch => !isBreak ch
      let (br, d) := d.lineBreak
      let (blankAfter, e) := blockBreaks indent (d.rest.length + 1) d
      if e.column ≠ indent ∨ e.rest = [] then (blank ++ line, br, blankAfter, e)
      else
        let nextIndented := e.sees fun ch => ch == ' ' || ch == '\t'
        let glue := if folded && br == ['\n'] && !isIndented && !nextIndented then
          (if blankAfter.isEmpty then [' '] else []) else br
        let (more, last, trailing, f) := blockLines folded indent fuel blankAfter e
        (blank ++ line ++ glue ++ more, last, trailing, f)

/-- **A block scalar**, from its indicator on, inside a block with the given indentation. -/
def block (folded : Bool) (outer : Int) (c : Cursor) : Except Failure (String × Cursor) := do
  let ((chomping, width), c) ← blockMarks c.next
  let c ← restOfLine c
  let least := (max (outer + 1) 1).toNat
  let (indent, blank, c) := match width with
    | some width =>
      let indent := least + width - 1
      let (blank, c) := blockBreaks indent (c.rest.length + 1) c
      (indent, blank, c)
    | none =>
      let (blank, widest, c) := blockLead (c.rest.length + 1) 0 c
      (max least widest, blank, c)
  let (lines, last, trailing, d) := blockLines folded indent (c.rest.length + 1) blank c
  let tail := match chomping with
    | .strip => []
    | .clip => last
    | .keep => last ++ trailing
  return (String.ofList (lines ++ tail), d)

/-! ### Names and tags -/

/-- The name of an anchor or alias, from its indicator on. -/
def name (c : Cursor) : Except Failure (String × Cursor) :=
  let (cs, d) := c.next.span isWordChar
  let closes (ch : Char) : Bool := isGap ch || "?:,]\x7d%@`".toList.contains ch
  if cs.isEmpty || !orEnd closes d.peek then .error .badYaml else .ok (String.ofList cs, d)

/-- Can the character stand in a tag as it is? -/
def isTagChar (c : Char) : Bool :=
  c.isAlphanum || "-;/?:@&=+$,_.!~*'()[]%".toList.contains c

/-- The text of a tag with its escapes read. -/
def tagText (c : Cursor) : Except Failure (String × Cursor) :=
  let (cs, d) := c.span isTagChar
  match (Web.Percent.decode? cs).bind fun bs => String.fromUTF8? ⟨bs.toArray⟩ with
  | some s => if cs.isEmpty then .error .badYaml else .ok (s, d)
  | none => .error .badYaml

/-- A handle: an exclamation mark, or a word between two of them. -/
def handle (c : Cursor) : Except Failure (String × Cursor) :=
  if c.peek != some '!' then .error .badYaml
  else if c.peekAt 1 == some ' ' then .ok ("!", c.next)
  else
    let (word, d) := c.next.span isWordChar
    if d.peek == some '!' then .ok (String.ofList ('!' :: word ++ ['!']), d.next)
    else .error .badYaml

/-- Is there a second exclamation mark before the next space? -/
def hasHandle (c : Cursor) : Bool :=
  (c.next.rest.takeWhile fun ch => ch != ' ' && !isBreak ch).contains '!'

/-- **A tag**, from its exclamation mark on. -/
def tag (c : Cursor) : Except Failure (TagText × Cursor) := do
  let (t, d) ←
    if c.peekAt 1 == some '<' then do
      let (suffix, d) ← tagText (c.advance 2)
      if d.peek == some '>' then pure (⟨none, suffix⟩, d.next) else throw .badYaml
    else if orEnd isGap (c.peekAt 1) then pure (⟨none, "!"⟩, c.next)
    else if hasHandle c then do
      let (h, d) ← handle c
      let (suffix, d) ← tagText d
      pure (⟨some h, suffix⟩, d)
    else do
      let (suffix, d) ← tagText c.next
      pure (⟨some "!", suffix⟩, d)
  if orEnd (fun ch => ch == ' ' || isBreak ch) d.peek then return (t, d) else throw .badYaml

/-! ### Directives -/

/-- A number. -/
def number (c : Cursor) : Except Failure (Nat × Cursor) :=
  let (digits, d) := c.span Char.isDigit
  if digits.isEmpty then .error .badYaml
  else .ok (digits.foldl (fun n ch => 10 * n + (ch.toNat - '0'.toNat)) 0, d)

/-- What comes next has to be a space, a line break or the end. -/
def closed (c : Cursor) : Except Failure Unit :=
  if orEnd (fun ch => ch == ' ' || isBreak ch) c.peek then .ok () else .error .badYaml

/-- **A directive**, from its percent sign on, and the rest of its line. -/
def directive (c : Cursor) : Except Failure (Directive × Cursor) := do
  let (word, c) := c.next.span isWordChar
  if word.isEmpty then throw .badYaml
  closed c
  let (d, c) ←
    if word = "YAML".toList then do
      let (major, c) ← number c.skipSpaces
      if c.peek != some '.' then throw .badYaml
      let (_, c) ← number c.next
      closed c
      pure (Directive.version major, c)
    else if word = "TAG".toList then do
      let (h, c) ← handle c.skipSpaces
      if c.peek != some ' ' then throw .badYaml
      let (base, c) ← tagText c.skipSpaces
      closed c
      pure (Directive.handle h base, c)
    else pure (Directive.unknown, c.skip fun ch => !isBreak ch)
  return (d, ← restOfLine c)

end Reading

end PairChat.Yaml
