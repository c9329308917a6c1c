import PairChat.Text.Encoding

/-!
# Percent encoding

`encode` writes a text as one segment of a path: letters, digits and `_ . - ~` stand for themselves,
every other byte of the text in UTF-8 becomes a percent sign and two hexadecimal digits in upper
case.  `decode?` reads a segment back into bytes, and `read` reads a text in which a percent sign
may stand for itself.
-/

namespace PairChat.Web.Percent

/-- Does the byte stand for itself? -/
def isUnreserved (b : UInt8) : Bool :=
  (0x41 ≤ b && b ≤ 0x5A) || (0x61 ≤ b && b ≤ 0x7A) || (0x30 ≤ b && b ≤ 0x39)
    || b == 0x5F || b == 0x2E || b == 0x2D || b == 0x7E

/-- A hexadecimal digit in upper case. -/
def hexDigit (n : Nat) : Char := Char.ofNat (if n < 10 then 0x30 + n else 0x41 + (n - 10))

/-- The value of a hexadecimal digit. -/
def hexValue? (c : Char) : Option Nat :=
  let n := c.toNat
  if 0x30 ≤ n ∧ n ≤ 0x39 then some (n - 0x30)
  else if 0x41 ≤ n ∧ n ≤ 0x46 then some (n - 0x41 + 10)
  else if 0x61 ≤ n ∧ n ≤ 0x66 then some (n - 0x61 + 10)
  else none

/-- A byte as an escape. -/
def escape (b : UInt8) : List Char := ['%', hexDigit (b.toNat / 16), hexDigit (b.toNat % 16)]

/-- A byte of a segment. -/
def encodeByte (b : UInt8) : List Char :=
  if isUnreserved b then [Char.ofNat b.toNat] else escape b

/-- **The segment of a text.** -/
def encode (s : String) : String := String.ofList ((Text.utf8 s.toList).flatMap encodeByte)

/-- The bytes of a segment; an escape has to be complete. -/
def decode? : List Char → Option (List UInt8)
  | [] => some []
  | '%' :: a :: b :: cs => do
    let a ← hexValue? a
    let b ← hexValue? b
    (decode? cs).map (UInt8.ofNat (a * 16 + b) :: ·)
  | '%' :: _ => none
  | c :: cs => (decode? cs).map (String.utf8EncodeChar c ++ ·)

/-- The bytes of a text in which a percent sign without two digits stands for itself. -/
def bytesOf : List Char → List UInt8
  | [] => []
  | '%' :: a :: b :: cs =>
    match hexValue? a, hexValue? b with
    | some x, some y => UInt8.ofNat (x * 16 + y) :: bytesOf cs
    | _, _ => String.utf8EncodeChar '%' ++ bytesOf (a :: b :: cs)
  | c :: cs => String.utf8EncodeChar c ++ bytesOf cs

/-- **The text that escapes write.** -/
def read (cs : List Char) : List Char := Text.lossy (bytesOf cs)

end PairChat.Web.Percent
