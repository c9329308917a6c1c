import PairChat.Web.HostName.Composed
import PairChat.Web.HostName.Punycode
import PairChat.Web.HostName.Tables

/-!
# Labels: the words of a host name

A label is a word between the dots of a host name.  `isLabel` tells whether a text can be one: it is
composed, its hyphens and marks stand where they may, each character may stand where it does, and
letters from right to left are not mixed with others.

`encodedLength?` is the length of a label as it is sent, in ASCII characters.
-/

namespace PairChat.Web.HostName

open Text (inRanges)

/-! ### Characters where they stand -/

/-- Does a list of ranges hold the character, if there is one? -/
def among (ranges : List (Nat × Nat)) (c : Option Char) : Bool :=
  c.any fun c => inRanges ranges c.toNat

/-- Is the character in a range? -/
def isBetween (first last : Nat) (c : Char) : Bool := first ≤ c.toNat && c.toNat ≤ last

/-- The class of the marks that take the vowel from a letter. -/
def vowelKiller : Nat := 9

/-- Do the letters on both sides join? -/
def joins (before after : List Char) : Bool :=
  let left := (before.dropWhile isTransparent).head?
  let right := (after.dropWhile isTransparent).head?
  (among joinBoth left || among joinAfter left) && (among joinBoth right || among joinBefore right)

/-- May a character stand between those before it, nearest first, and those after it? -/
def isPlaced (before : List Char) (c : Char) (after : List Char) : Bool :=
  let anywhere (p : Char → Bool) : Bool := before.any p || after.any p
  match c.toNat with
  | 0x200C => before.head?.any (markClass · == vowelKiller) || joins before after
  | 0x200D => before.head?.any (markClass · == vowelKiller)
  | 0xB7 => before.head? == some 'l' && after.head? == some 'l'
  | 0x375 => among greek after.head?
  | 0x5F3 | 0x5F4 => among hebrew before.head?
  | 0x30FB => anywhere fun d => inRanges eastAsian d.toNat
  | _ =>
    if isBetween 0x660 0x669 c then !anywhere (isBetween 0x6F0 0x6F9)
    else if isBetween 0x6F0 0x6F9 c then !anywhere (isBetween 0x660 0x669)
    else isLabelChar c

/-- May all characters stand where they do, behind those before them, nearest first? -/
def arePlaced (before : List Char) : List Char → Bool
  | [] => true
  | c :: cs => isPlaced before c cs && arePlaced (c :: before) cs

/-! ### Directions -/

/-- How a character of a label is written. -/
inductive Direction where
  | leftToRight
  | rightToLeft
  | arabicDigit
  | plainDigit
  | mark
  | neutral
deriving DecidableEq, Repr

/-- How a character is written. -/
def direction (c : Char) : Direction :=
  let n := c.toNat
  if inRanges rightToLeft n then .rightToLeft
  else if inRanges arabicDigits n then .arabicDigit
  else if inRanges plainDigits n then .plainDigit
  else if inRanges neutralSigns n then .neutral
  else if inRanges nonspacingMarks n && !directedMarks.contains n then .mark
  else .leftToRight

/-- Can the directions go together? If any goes from right to left, the first one does, none goes
from left to right, the last one is no sign, and the digits are of one kind. -/
def isDirected (ds : List Direction) : Bool :=
  let last := (ds.reverse.dropWhile (· == .mark)).head?
  !(ds.contains .rightToLeft || ds.contains .arabicDigit)
    || (ds.head? == some .rightToLeft && !ds.contains .leftToRight
      && last != some .neutral && !(ds.contains .arabicDigit && ds.contains .plainDigit))

/-! ### Labels -/

/-- Do the hyphens stand where they may? Not at the ends, and not third and fourth. -/
def isHyphenated (cs : List Char) : Bool :=
  cs.head? != some '-' && cs.getLast? != some '-' && (cs.drop 2).take 2 != ['-', '-']

/-- **Can the text be a label?** -/
def isLabel (cs : List Char) : Bool :=
  !cs.isEmpty && isHyphenated cs && !cs.head?.any isMark && arePlaced [] cs && isComposed cs
    && isDirected (cs.map direction)

/-- What labels in ASCII characters begin with. -/
def encodedMark : List Char := "xn--".toList

/-- Is the text a label, or one in ASCII characters? -/
def isPlainLabel (cs : List Char) : Bool :=
  if encodedMark.isPrefixOf cs then
    let code := cs.drop encodedMark.length
    !code.isEmpty && code.getLast? != some '-' && (Punycode.decode? code).any isLabel
  else isLabel cs

/-- How many characters a label has at most as it is sent. -/
def longestLabel : Nat := 63

/-- The length of a label as it is sent, `none` if it is no label. -/
def encodedLength? (cs : List Char) : Option Nat :=
  let isPlain := cs.all fun c => c.toNat < 0x80
  let length := if isPlain then cs.length else encodedMark.length + (Punycode.encode cs).length
  if (if isPlain then isPlainLabel cs else isLabel cs) && length ≤ longestLabel then some length
  else none

end PairChat.Web.HostName
