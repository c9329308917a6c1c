import PairChat.Failure

/-!
# Writing JSON

`Json.write` lays a value out over several lines, two more spaces for each level; an empty list or
mapping stays on its line.  Texts are written in ASCII: the short escapes where the format has them,
four hexadecimal digits for every other unit of 16 bits, a half of a character included.  Keys and
values that the format lacks are written as texts.

What is sent to others is written in the strict form of the format, which has no infinite numbers
and no halves of characters (`unwritten?`).
-/

namespace PairChat.Json

/-- A unit of 16 bits as an escape. -/
def escapeUnit (n : Nat) : List Char := '\\' :: 'u' :: Text.hexDigits 4 n

/-- A character of a text. -/
def writeChar (c : Char) : List Char :=
  let n := c.toNat
  if c = '"' then ['\\', '"']
  else if c = '\\' then ['\\', '\\']
  else if c = '\n' then ['\\', 'n']
  else if c = '\r' then ['\\', 'r']
  else if c = '\t' then ['\\', 't']
  else if n = 8 then ['\\', 'b']
  else if n = 12 then ['\\', 'f']
  else if 0x20 ≤ n ∧ n < 0x7F then [c]
  else if n < 0x10000 then escapeUnit n
  else escapeUnit (0xD800 + (n - 0x10000) / 0x400) ++ escapeUnit (0xDC00 + (n - 0x10000) % 0x400)

/-- A text between quotes. -/
def writeText (s : String) : String :=
  String.ofList ('"' :: Text.mapPieces writeChar escapeUnit s.toList ++ ['"'])

/-- A scalar. -/
def writeScalar : Scalar → String
  | .null => "null"
  | .bool true => "true"
  | .bool false => "false"
  | .int n => toString n
  | .real x => x.write "Infinity" "NaN"
  | .text s => writeText s
  | s => writeText s.plain

/-- The text that a scalar is as a key. -/
def keyText : Scalar → String
  | .text s => s
  | s@(.bytes _) => s.plain
  | s@(.date _) => s.plain
  | s@(.moment ..) => s.plain
  | s => writeScalar s

/-- A line break with the indentation of a level. -/
def breakAt (level : Nat) : String := "\n" ++ String.ofList (List.replicate (2 * level) ' ')

/-- Parts between brackets, each on a line of its own. -/
def block (opening closing : String) (level : Nat) (parts : List String) : String :=
  if parts.isEmpty then opening ++ closing
  else opening ++ breakAt (level + 1) ++ separated ("," ++ breakAt (level + 1)) parts
    ++ breakAt level ++ closing

mutual

/-- A value whose first line stands at a level. -/
def writeAt (level : Nat) : Value → String
  | .scalar s => writeScalar s
  | .list items | .tuple items => block "[" "]" level (writeItems level items)
  | .map entries => block "\x7b" "\x7d" level (writeEntries level entries)
  | .set members => block "[" "]" level (members.map writeScalar)
  | .shared _ _ v => writeAt level v
  | .again _ => "null"

/-- The items of a list, one level further in. -/
def writeItems (level : Nat) : List Value → List String
  | [] => []
  | v :: vs => writeAt (level + 1) v :: writeItems level vs

/-- The entries of a mapping, one level further in. -/
def writeEntries (level : Nat) : List (Scalar × Value) → List String
  | [] => []
  | (k, v) :: es =>
    (writeText (keyText k) ++ ": " ++ writeAt (level + 1) v) :: writeEntries level es

end

/-- **The document of a value.** -/
def write (v : Value) : String := writeAt 0 v

/-! ### The strict form -/

/-- Is the scalar a number that the strict form lacks? -/
def isUnlimited : Scalar → Bool
  | .real (.finite _) => false
  | .real _ => true
  | _ => false

/-- Does the scalar hold a half of a character? -/
def isBroken : Scalar → Bool
  | .text s => !Text.isWhole s.toList
  | _ => false

mutual

/-- Has the value, or one of its parts or keys, the property? -/
def anyScalar (p : Scalar → Bool) : Value → Bool
  | .scalar s => p s
  | .list items | .tuple items => anyItem p items
  | .map entries => anyEntry p entries
  | .set members => members.any p
  | .shared _ _ v => anyScalar p v
  | .again _ => false

/-- Has one of the items the property? -/
def anyItem (p : Scalar → Bool) : List Value → Bool
  | [] => false
  | v :: vs => anyScalar p v || anyItem p vs

/-- Has one of the entries the property? -/
def anyEntry (p : Scalar → Bool) : List (Scalar × Value) → Bool
  | [] => false
  | (k, v) :: es => p k || anyScalar p v || anyEntry p es

end

/-- **Why a value has no strict form**, if it has none. -/
def unwritten? (v : Value) : Option Failure :=
  if anyScalar isUnlimited v then some (.shape .value)
  else if anyScalar isBroken v then some .notEncodable
  else none

/-- A mapping with its keys as texts, each of them once. -/
def ofEntries (entries : List (Scalar × Value)) : Value :=
  .map (distinctEntries (entries.map fun (k, v) => (.text (keyText k), v)))

end PairChat.Json
