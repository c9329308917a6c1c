/-!
# Halves: units of 16 bits that stand alone

A character beyond the basic plane is a pair of units of 16 bits.  A document can hold one half of a
pair by its number; such a half is no character, and no text with it can be encoded.  It is kept in
a text as two characters: a mark that no text needs, and a private character that carries the number
(`half`).

* `pieces` are the characters and halves of a text;
* a text can be encoded (`isEncodable`) if it is whole (`isWhole`), that is, if it holds no half.
-/

namespace PairChat.Text

/-- Is the number the first half of a pair? -/
def isHighUnit (n : Nat) : Bool := 0xD800 ≤ n && n ≤ 0xDBFF

/-- Is the number the second half of a pair? -/
def isLowUnit (n : Nat) : Bool := 0xDC00 ≤ n && n ≤ 0xDFFF

/-- Is the number a half of a pair? -/
def isHalfUnit (n : Nat) : Bool := isHighUnit n || isLowUnit n

/-- The character of a pair. -/
def joinUnits (high low : Nat) : Char :=
  Char.ofNat (0x10000 + (high - 0xD800) * 0x400 + (low - 0xDC00))

/-- The character that a half begins with. -/
def halfMark : Char := Char.ofNat 0x10FFFE

/-- The private character for the first number of a half; the others follow it. -/
def halfBase : Nat := 0x100000

/-- **A half as it is kept in a text.** -/
def half (unit : Nat) : List Char := [halfMark, Char.ofNat (halfBase + (unit - 0xD800))]

/-- The number of the half that the text begins with, if it begins with one. -/
def halfAt? : List Char → Option Nat
  | mark :: c :: _ =>
    let unit := c.toNat - halfBase + 0xD800
    if mark = halfMark ∧ halfBase ≤ c.toNat ∧ isHalfUnit unit then some unit else none
  | _ => none

/-- The character or the half of a number. -/
def ofUnit (n : Nat) : List Char := if isHalfUnit n then half n else [Char.ofNat n]

/-- A piece of a text: a character, or the number of a half. -/
inductive Piece where
  | char (c : Char)
  | half (unit : Nat)
deriving DecidableEq, Repr

/-- **The pieces of a text.** -/
def pieces : List Char → List Piece
  | [] => []
  | [c] => [.char c]
  | c :: d :: cs =>
    match halfAt? [c, d] with
    | some unit => .half unit :: pieces cs
    | none => .char c :: pieces (d :: cs)

/-- Does the text hold no half? -/
def isWhole : List Char → Bool
  | [] => true
  | c :: cs => (halfAt? (c :: cs)).isNone && isWhole cs

/-- The text with each piece replaced by some characters. -/
def mapPieces (f : Char → List Char) (g : Nat → List Char) (cs : List Char) : List Char :=
  (pieces cs).flatMap fun
    | .char c => f c
    | .half unit => g unit

/-- Can the text be encoded? -/
def isEncodable (s : String) : Bool := isWhole s.toList

theorem isWhole_of_append {pre cs : List Char} (h : isWhole (pre ++ cs)) : isWhole cs := by
  induction pre with
  | nil => exact h
  | cons c pre ih =>
    rw [List.cons_append, isWhole, Bool.and_eq_true] at h
    exact ih h.2

/-- Characters that are no mark begin no half. -/
theorem isWhole_append {pre cs : List Char} (h : halfMark ∉ pre) :
    isWhole (pre ++ cs) = isWhole cs := by
  induction pre with
  | nil => rfl
  | cons c pre ih =>
    have hc : c ≠ halfMark := fun e => h (e ▸ List.mem_cons_self)
    have hnone : halfAt? (c :: (pre ++ cs)) = none := by
      rcases pre ++ cs with _ | ⟨d, rest⟩ <;> simp [halfAt?, hc]
    rw [List.cons_append, isWhole, hnone, ih fun m => h (List.mem_cons_of_mem _ m)]
    rfl

end PairChat.Text
