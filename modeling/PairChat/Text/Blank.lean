/-!
# Blank characters: what is stripped from the ends of a text

A character is blank if it separates words: the white space of Unicode and the four ASCII
information separators `U+001C` to `U+001F`.  `strip` removes the blank characters at both ends of a
text, and nothing is left of a text exactly if it has blank characters only (`strip_eq_nil_iff`).
-/

namespace PairChat.Text

/-- The ranges of the blank characters by code point, in increasing order. -/
def blankRanges : List (Nat × Nat) :=
  [(0x09, 0x0D), (0x1C, 0x20), (0x85, 0x85), (0xA0, 0xA0), (0x1680, 0x1680), (0x2000, 0x200A),
    (0x2028, 0x2029), (0x202F, 0x202F), (0x205F, 0x205F), (0x3000, 0x3000)]

/-- Does the code point lie in one of the ranges? -/
def inRanges (ranges : List (Nat × Nat)) (n : Nat) : Bool :=
  ranges.any fun r => r.1 ≤ n && n ≤ r.2

/-- Is the character blank? -/
def isBlank (c : Char) : Bool := inRanges blankRanges c.toNat

/-- The text without the characters at its ends that satisfy `p`. -/
def stripBy (p : Char → Bool) (cs : List Char) : List Char :=
  ((cs.dropWhile p).reverse.dropWhile p).reverse

/-- The text without the blank characters at its ends. -/
def strip (cs : List Char) : List Char := stripBy isBlank cs

/-- Has the text blank characters only? -/
def isBlankText (cs : List Char) : Bool := cs.all isBlank

theorem dropWhile_eq_nil_iff {p : Char → Bool} {cs : List Char} :
    cs.dropWhile p = [] ↔ cs.all p := by
  induction cs with
  | nil => simp
  | cons c cs ih => by_cases h : p c <;> simp [h, ih]

/-- Nothing is left of a text exactly if all its characters are blank. -/
theorem strip_eq_nil_iff {cs : List Char} : strip cs = [] ↔ isBlankText cs := by
  unfold strip stripBy isBlankText
  constructor
  · intro h
    have h' : (cs.dropWhile isBlank).reverse.all isBlank :=
      dropWhile_eq_nil_iff.mp (by simpa using h)
    rw [← List.takeWhile_append_dropWhile (p := isBlank) (l := cs), List.all_append,
      Bool.and_eq_true]
    exact ⟨List.all_takeWhile, by simpa using h'⟩
  · intro h
    rw [dropWhile_eq_nil_iff.mpr h]
    rfl

end PairChat.Text
