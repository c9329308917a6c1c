import PairChat.Yaml.Style

/-!
# Writing documents

A mapping is written as a block: each entry begins a line, the items of a list stand under their key
at its column, and the entries of a mapping inside another one are indented.  Empty collections are
written in brackets and braces.

A key that is long, empty or has more than one line is written after a question mark.

A part that the document refers to more than once is written where it comes first, with an anchor,
and as an alias elsewhere.  Anchors are numbered in the order in which they turn out to be needed
(`anchorsOf`).
-/

namespace PairChat.Yaml

/-! ### Scalars -/

/-- A number with a point in it. -/
def withPoint (s : String) : String :=
  let cs := s.toList
  if cs.contains '.' then s
  else
    let whole := cs.takeWhile (· != 'e')
    let point := if whole.length = cs.length then [] else ".0".toList
    String.ofList (whole ++ point ++ cs.drop whole.length)

/-- The text of a scalar. -/
def scalarText : PairChat.Scalar → String
  | .null => "null"
  | .bool true => "true"
  | .bool false => "false"
  | .int n => toString n
  | .real x => withPoint (x.write ".inf" ".nan")
  | .text s => s
  | .date d => d.write
  | .moment d t offset => writeMoment d t offset
  | .bytes bs => String.ofList (Text.Bytes.encode bs)

/-- The length of the short name of the tag of a scalar. -/
def tagLength : PairChat.Scalar → Nat
  | .null | .bool _ => 6
  | .int _ | .text _ => 5
  | .real _ => 7
  | .bytes _ => 8
  | .date _ | .moment .. => 11

/-- Pieces of a text of a given length, the last one shorter. -/
def pieces (n : Nat) : Nat → List Char → List (List Char)
  | 0, _ => []
  | fuel + 1, cs => if cs.isEmpty then [] else cs.take n :: pieces n fuel (cs.drop n)

/-- Bytes as a block of lines. -/
def bytesBlock (indent : Nat) (bs : List UInt8) : String :=
  let lines := pieces 76 (bs.length + 1) (Text.Bytes.encode bs)
  if lines.isEmpty then "!!binary ''"
  else "!!binary |" ++ String.join (lines.map fun l => String.ofList (breakTo indent ++ l))

/-- A scalar from a column on. -/
def scalarAt (oneLine : Bool) (indent column : Nat) : PairChat.Scalar → String
  | .text s => styled (styleOf oneLine s) (!oneLine) indent column s
  | .bytes bs => bytesBlock indent bs
  | s => styled .plain (!oneLine) indent column (scalarText s)

/-- Can the key stand before a colon on one line? -/
def isSimpleKey (key : PairChat.Scalar) : Bool :=
  let cs := (scalarText key).toList
  !cs.isEmpty && !cs.any (fun c => isBreak c && c != '\r')
    && (Text.pieces cs).length + tagLength key < 128
    && match key with
      | .bytes _ => false
      | _ => true

/-! ### Anchors -/

/-- The marks that were met, and the numbers of those that were met again. -/
structure Met where
  marks : List Nat := []
  numbers : List (Nat × Nat) := []

/-- A mark that is met again has a number from then on. The answer says whether it was met for the
first time. -/
def meet (mark : Nat) : StateM Met Bool := do
  let m ← get
  if !m.marks.contains mark then
    set { m with marks := mark :: m.marks }
    return true
  if (m.numbers.lookup mark).isNone then
    set { m with numbers := (mark, m.numbers.length + 1) :: m.numbers }
  return false

mutual

/-- Meet the marks in a value. -/
def meetValue : Value → StateM Met Unit
  | .shared mark _ v => do
    if ← meet mark then meetValue v
  | .again mark => do
    let _ ← meet mark
  | .list items | .tuple items => meetItems items
  | .map entries => meetEntries entries
  | .scalar _ | .set _ => return

/-- Meet the marks in items. -/
def meetItems : List Value → StateM Met Unit
  | [] => return
  | v :: vs => do
    meetValue v
    meetItems vs

/-- Meet the marks in entries. -/
def meetEntries : List (PairChat.Scalar × Value) → StateM Met Unit
  | [] => return
  | (_, v) :: es => do
    meetValue v
    meetEntries es

end

/-- **The numbers of the anchors** that the entries of a mapping need, by their marks. -/
def anchorsOf (entries : List (PairChat.Scalar × Value)) : List (Nat × Nat) :=
  ((meetEntries entries).run {}).2.numbers

/-- The name of an anchor. -/
def anchorName (number : Nat) : String := "id" ++ padded 3 number

/-! ### Collections -/

/-- An indentation. -/
def spaces (n : Nat) : String := String.ofList (List.replicate n ' ')

/-- Texts one after the other, each but the first on a line of its own. -/
def onLines (indent : Nat) (items : List String) : String :=
  separated (String.ofList (breakTo indent)) items

/-- The key of an entry with its colon, or with a colon on the next line. -/
def keyAt (indent : Nat) (key : PairChat.Scalar) : String :=
  if isSimpleKey key then scalarAt true indent indent key ++ ":"
  else
    "? " ++ scalarAt false (indent + indentWidth) (indent + 2) key
      ++ String.ofList (breakTo indent) ++ ":"

/-- The column after the key of an entry with its colon. -/
def columnAfter (indent : Nat) (key : PairChat.Scalar) : Nat :=
  if isSimpleKey key then indent + (keyAt indent key).length else indent + 1

/-- What a value is written after: the hyphen of an item, a key with its colon, or a colon that has
a line of its own. -/
inductive Place where
  | item
  | key
  | colon
deriving DecidableEq, Repr

/-- Where the items of a list begin, and at which indentation. They begin on the same line after a
mark that stands alone. -/
def listStart (place : Place) (hasAnchor : Bool) (indent : Nat) : String × Nat :=
  let inner := indent + indentWidth
  match place, hasAnchor with
  | .item, false | .colon, false => (" ", inner)
  | .item, true => (String.ofList (breakTo inner), inner)
  | .key, _ | .colon, true => (String.ofList (breakTo indent), indent)

/-- Where the entries of a mapping begin, and at which indentation. -/
def mapStart (place : Place) (hasAnchor : Bool) (indent : Nat) : String × Nat :=
  let inner := indent + indentWidth
  (if place = .key || hasAnchor then String.ofList (breakTo inner) else " ", inner)

/-- A step of the writing, which keeps the marks that were written. -/
abbrev Write : Type → Type := StateM (List Nat)

mutual

/-- A value after what stands before it. A block begins on the next line, or on the same line after
a mark that stands alone. -/
def valueAt (anchors : List (Nat × Nat)) (place : Place) (hasAnchor : Bool) (indent column : Nat) :
    Value → Write String
  | .scalar s => return " " ++ scalarAt false (indent + indentWidth) (column + 1) s
  | .list [] | .tuple [] => return " []"
  | .map [] => return " \x7b\x7d"
  | .set [] => return " !!set \x7b\x7d"
  | .list items | .tuple items => do
    let (start, inner) := listStart place hasAnchor indent
    return start ++ onLines inner (← itemsAt anchors inner items)
  | .map entries => do
    let (start, inner) := mapStart place hasAnchor indent
    return start ++ onLines inner (← entriesAt anchors inner entries)
  | .set members =>
    let inner := indent + indentWidth
    return " !!set" ++ String.ofList (breakTo inner)
      ++ onLines inner (members.map fun m => keyAt inner m ++ " null")
  | .again mark => return " *" ++ anchorName ((anchors.lookup mark).getD 0)
  | .shared mark _ v => do
    match anchors.lookup mark with
    | none => valueAt anchors place hasAnchor indent column v
    | some number =>
      let written ← get
      if written.contains mark then return " *" ++ anchorName number
      set (mark :: written)
      let anchor := " &" ++ anchorName number
      return anchor ++ (← valueAt anchors place true indent (column + anchor.length) v)

/-- The items of a list at a column. -/
def itemsAt (anchors : List (Nat × Nat)) (indent : Nat) : List Value → Write (List String)
  | [] => return []
  | v :: vs => do
    let item ← valueAt anchors .item false indent (indent + 1) v
    return ("-" ++ item) :: (← itemsAt anchors indent vs)

/-- The entries of a mapping at a column. -/
def entriesAt (anchors : List (Nat × Nat)) (indent : Nat) :
    List (PairChat.Scalar × Value) → Write (List String)
  | [] => return []
  | (k, v) :: es => do
    let place := if isSimpleKey k then Place.key else .colon
    let value ← valueAt anchors place false indent (columnAfter indent k) v
    return (keyAt indent k ++ value) :: (← entriesAt anchors indent es)

end

/-- **The document of a mapping.** -/
def write (entries : List (PairChat.Scalar × Value)) : String :=
  if entries.isEmpty then "\x7b\x7d\n"
  else onLines 0 ((entriesAt (anchorsOf entries) 0 entries).run []).1 ++ "\n"

end PairChat.Yaml
