/-!
# Bytes as text

Bytes are written in base 64: each character stands for six bits.  Reading passes over characters
that stand for nothing and stops at the padding.
-/

namespace PairChat.Text.Bytes

/-- The characters in the order of what they stand for. -/
def alphabet : List Char :=
  "ABCDEFGHIJKLMNOPQRSTUVWXYZabcdefghijklmnopqrstuvwxyz0123456789+/".toList

/-- The six bits that a character stands for. -/
def sextet? (c : Char) : Option Nat := alphabet.idxOf? c

/-- The bytes of up to four sextets. -/
def ofSextets : List Nat → List UInt8
  | a :: b :: rest =>
    UInt8.ofNat (a * 4 + b / 16) :: match rest with
    | [] => []
    | c :: rest => UInt8.ofNat (b % 16 * 16 + c / 4) :: match rest with
      | [] => []
      | d :: _ => [UInt8.ofNat (c % 4 * 64 + d)]
  | _ => []

/-- The bytes that a text writes, after the sextets of a group that is not full. A group that ends
early has to be padded. -/
def decodeFrom (group : List Nat) (pads : Nat) : List Char → Option (List UInt8)
  | [] => if group.isEmpty then some [] else none
  | c :: cs =>
    if c = '=' then
      if 2 ≤ group.length ∧ 4 ≤ group.length + pads + 1 then some (ofSextets group)
      else decodeFrom group (if 2 ≤ group.length then pads + 1 else pads) cs
    else match sextet? c with
      | none => decodeFrom group pads cs
      | some n =>
        let group := group ++ [n]
        if group.length = 4 then (decodeFrom [] 0 cs).map (ofSextets group ++ ·)
        else decodeFrom group 0 cs

/-- The bytes that a text writes. -/
def decode? (s : String) : Option (List UInt8) :=
  if s.toList.all fun c => c.toNat < 128 then decodeFrom [] 0 s.toList else none

/-- The character for six bits. -/
def char (n : Nat) : Char := alphabet.getD n '='

/-- **The text that writes bytes.** -/
def encode : List UInt8 → List Char
  | a :: b :: c :: rest =>
    let (a, b, c) := (a.toNat, b.toNat, c.toNat)
    char (a / 4) :: char (a % 4 * 16 + b / 16) :: char (b % 16 * 4 + c / 64) :: char (c % 64)
      :: encode rest
  | [a, b] =>
    let (a, b) := (a.toNat, b.toNat)
    [char (a / 4), char (a % 4 * 16 + b / 16), char (b % 16 * 4), '=']
  | [a] => [char (a.toNat / 4), char (a.toNat % 4 * 16), '=', '=']
  | [] => []

end PairChat.Text.Bytes
