import PairChat.Web.HostName.Marks

/-!
# Composed text

A text is composed if no character in it could be put in one with a mark behind it, and if the marks
on a character stand in the order of their classes: then it is what `compose` makes of its parts
(`parts`).  The first character has to be no mark.
-/

namespace PairChat.Web.HostName

/-- The class of a mark, 0 for all other characters. -/
def markClass (c : Char) : Nat :=
  match markClasses.find? fun m => Text.inRanges m.2 c.toNat with
  | some m => m.1
  | none => 0

/-- The character that stands for a character with a mark. -/
def withMark? (c mark : Char) : Option Char :=
  (((compositions.lookup mark.toNat).getD []).lookup c.toNat).map Char.ofNat

/-- The character and the mark that a character stands for. -/
def split? (c : Char) : Option (Char × Char) :=
  compositions.findSome? fun (mark, made) =>
    (made.find? fun m => m.2 == c.toNat).map fun m => (Char.ofNat m.1, Char.ofNat mark)

/-- A character with the marks that it stands for, of which there are at most `marks`. -/
def partsOf : Nat → Char → List Char
  | 0, c => [c]
  | marks + 1, c =>
    match split? c with
    | some (c, mark) => partsOf marks c ++ [mark]
    | none => [c]

/-- How many marks a character stands for at most. -/
def mostMarks : Nat := 2

/-- A character in front of others, behind the marks of lower classes. -/
def putMark (c : Char) : List Char → List Char
  | [] => [c]
  | d :: ds =>
    if 0 < markClass d ∧ markClass d < markClass c then d :: putMark c ds else c :: d :: ds

/-- The parts of a text, with marks in the order of their classes. -/
def parts (cs : List Char) : List Char := (cs.flatMap (partsOf mostMarks)).foldr putMark []

/-- A character with those behind it. It takes up each mark that no other mark of its class or of a
higher one keeps away; the `kept` marks are those that it did not take up. -/
def composeFrom (c : Char) (kept : List Char) : List Char → List Char
  | [] => c :: kept
  | d :: ds =>
    let isFree := kept.getLast?.all fun k => markClass k < markClass d
    match if isFree then withMark? c d else none with
    | some c => composeFrom c kept ds
    | none =>
      if markClass d = 0 then c :: kept ++ composeFrom d [] ds
      else composeFrom c (kept ++ [d]) ds

/-- The text with marks taken up by the characters before them. -/
def compose : List Char → List Char
  | [] => []
  | c :: cs => composeFrom c [] cs

/-- Is the text composed? -/
def isComposed (cs : List Char) : Bool := compose (parts cs) == cs

end PairChat.Web.HostName
