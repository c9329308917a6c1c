import PairChat.Text.Halves

/-!
# Encodings: texts as bytes

A text becomes bytes in UTF-8 (`utf8`).  Bytes that are not UTF-8 are read as far as they are: what
cannot be continued becomes one replacement character (`lossy`).

A document may also come in units of two or four bytes, with the large byte first or last.  Which of
these it is shows in the zeros among its first bytes (`widthOf`); halves of characters are read as
they are (`ofUnits?`).
-/

namespace PairChat.Text

/-- The bytes of a text. -/
def utf8 (cs : List Char) : List UInt8 := cs.flatMap String.utf8EncodeChar

/-! ### Reading what may be no text -/

/-- The character for what is no text. -/
def replacement : Char := Char.ofNat 0xFFFD

/-- What is known of a character after some of its bytes: its number so far, the range of the next
byte, and how many bytes follow that one. -/
structure Begun where
  value : Nat
  low : Nat := 0x80
  high : Nat := 0xBF
  more : Nat := 0

/-- What the first byte of a character beyond ASCII says, if it can be one. -/
def begin? (b : Nat) : Option Begun :=
  if 0xC2 ≤ b ∧ b ≤ 0xDF then some { value := b - 0xC0 }
  else if b = 0xE0 then some { value := 0, low := 0xA0, more := 1 }
  else if b = 0xED then some { value := 0xD, high := 0x9F, more := 1 }
  else if 0xE1 ≤ b ∧ b ≤ 0xEF then some { value := b - 0xE0, more := 1 }
  else if b = 0xF0 then some { value := 0, low := 0x90, more := 2 }
  else if 0xF1 ≤ b ∧ b ≤ 0xF3 then some { value := b - 0xF0, more := 2 }
  else if b = 0xF4 then some { value := 4, high := 0x8F, more := 2 }
  else none

/-- The text from a first byte on. -/
def lossyByte (b : Nat) : Option Begun × List Char :=
  if b < 0x80 then (none, [Char.ofNat b])
  else match begin? b with
    | some begun => (some begun, [])
    | none => (none, [replacement])

/-- The text of bytes after the beginning of a character. -/
def lossyFrom : Option Begun → List UInt8 → List Char
  | none, [] => []
  | some _, [] => [replacement]
  | none, b :: bs =>
    let (begun, cs) := lossyByte b.toNat
    cs ++ lossyFrom begun bs
  | some begun, b :: bs =>
    let n := b.toNat
    if begun.low ≤ n ∧ n ≤ begun.high then
      let value := begun.value * 64 + (n - 0x80)
      if begun.more = 0 then Char.ofNat value :: lossyFrom none bs
      else lossyFrom (some { value, more := begun.more - 1 }) bs
    else
      let (begun, cs) := lossyByte n
      replacement :: cs ++ lossyFrom begun bs

/-- **The text of bytes**, with replacement characters for what is no text. -/
def lossy (bs : List UInt8) : List Char := lossyFrom none bs

/-! ### Units of two or four bytes -/

/-- How many bytes a unit has, and whether the large byte comes first. -/
structure Width where
  size : Nat
  largeFirst : Bool
deriving DecidableEq, Repr

/-- The width of the units of a document that begins with an ASCII character, or `none` for
UTF-8. -/
def widthOf : List UInt8 → Option Width
  | 0 :: 0 :: _ :: _ :: _ => some ⟨4, true⟩
  | 0 :: _ :: _ :: _ :: _ => some ⟨2, true⟩
  | _ :: 0 :: 0 :: 0 :: _ => some ⟨4, false⟩
  | _ :: 0 :: _ :: _ :: _ => some ⟨2, false⟩
  | [0, _] => some ⟨2, true⟩
  | [_, 0] => some ⟨2, false⟩
  | _ => none

/-- The numbers of units, the last of which has to be complete. -/
def units? (w : Width) (unit : List UInt8) : List UInt8 → Option (List Nat)
  | [] => if unit.isEmpty then some [] else none
  | b :: bs =>
    let unit := unit ++ [b]
    if unit.length < w.size then units? w unit bs
    else
      let digits := if w.largeFirst then unit else unit.reverse
      (units? w [] bs).map (digits.foldl (fun n d => 256 * n + d.toNat) 0 :: ·)

/-- The text of units of two bytes. -/
def joinPairs : List Nat → List Char
  | [] => []
  | [n] => ofUnit n
  | high :: low :: ns =>
    if isHighUnit high && isLowUnit low then joinUnits high low :: joinPairs ns
    else ofUnit high ++ joinPairs (low :: ns)

/-- **The text of units**, if it is one. -/
def ofUnits? (w : Width) (bs : List UInt8) : Option (List Char) := do
  let units ← units? w [] bs
  if w.size = 2 then some (joinPairs units)
  else if units.all (· < 0x110000) then some (units.flatMap ofUnit)
  else none

end PairChat.Text
