import PairChat.Text.Case.Tables

/-!
# Capitalised words

`capitalize` puts the first character of a text into title case and all others into lower case.  A
capital sigma at the end of a word becomes the final form of the letter.
-/

namespace PairChat.Text

open Case

/-- The character that a list of runs maps `c` to. -/
def mapRuns (runs : List CaseRun) (c : Char) : Char :=
  match runs.find? fun r => r.covers c.toNat with
  | some r => Char.ofNat ((c.toNat : Int) + r.shift).toNat
  | none => c

/-- The title case of a character. -/
def toTitle (c : Char) : List Char :=
  match titleExpansions.lookup c.toNat with
  | some ns => ns.map Char.ofNat
  | none => [mapRuns titleRuns c]

/-- Is the character a mark that is passed over? -/
def isIgnorable (c : Char) : Bool := inRanges ignorableRanges c.toNat

/-- Is the nearest neighbour that is no ignorable mark a letter with case? -/
def meetsCased (neighbours : List Char) : Bool :=
  match neighbours.dropWhile isIgnorable with
  | [] => false
  | c :: _ => inRanges casedRanges c.toNat

/-- The lower case of a character between the characters before it, nearest first, and those after
it. -/
def toLower (before : List Char) (c : Char) (after : List Char) : List Char :=
  if c = 'Σ' then [if meetsCased before && !meetsCased after then 'ς' else 'σ']
  else if c = 'İ' then ['i', Char.ofNat 0x307]
  else [mapRuns lowerRuns c]

/-- The text in lower case, after the characters `before` it, nearest first. -/
def lowerAfter (before : List Char) : List Char → List Char
  | [] => []
  | c :: cs => toLower before c cs ++ lowerAfter (c :: before) cs

/-- The text with its first character in title case and all others in lower case. -/
def capitalize (s : String) : String :=
  match s.toList with
  | [] => ""
  | c :: cs => String.ofList (toTitle c ++ lowerAfter [c] cs)

end PairChat.Text
