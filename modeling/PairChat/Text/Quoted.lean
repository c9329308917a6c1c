import PairChat.Text.Halves
import PairChat.Text.Printable

/-!
# Quoted texts: a text as it is shown in a message

A quoted text stands between single quotes, or between double quotes if it holds a single quote and
no double quote (`quoteOf`).  The backslash, the quote in use, the characters without a visible form
and the halves of characters are escaped, so every character of a quoted text is printable.

A text with halves cannot be encoded; `encodingFault` is what is said about it.
-/

namespace PairChat.Text

/-- The last `width` hexadecimal digits of a number, in lower case. -/
def hexDigits (width n : Nat) : List Char :=
  let ds := Nat.toDigits 16 n
  List.replicate (width - ds.length) '0' ++ ds

/-- The quote that a text is put between. -/
def quoteOf (cs : List Char) : Char :=
  if cs.contains '\'' && !cs.contains '"' then '"' else '\''

/-- A character of a text that is put between `quote`s. -/
def quoteChar (quote c : Char) : List Char :=
  if c = quote ∨ c = '\\' then ['\\', c]
  else if c = '\n' then ['\\', 'n']
  else if c = '\r' then ['\\', 'r']
  else if c = '\t' then ['\\', 't']
  else if isPrintable c then [c]
  else if c.toNat < 0x100 then '\\' :: 'x' :: hexDigits 2 c.toNat
  else if c.toNat < 0x10000 then '\\' :: 'u' :: hexDigits 4 c.toNat
  else '\\' :: 'U' :: hexDigits 8 c.toNat

/-- A half of a character in a quoted text. -/
def quoteHalf (unit : Nat) : List Char := '\\' :: 'u' :: hexDigits 4 unit

/-- The text between quotes. -/
def quoted (s : String) : String :=
  let quote := quoteOf s.toList
  String.ofList (quote :: mapPieces (quoteChar quote) quoteHalf s.toList ++ [quote])

/-- Is the piece a half? -/
def Piece.isHalf : Piece → Bool
  | .char _ => false
  | .half _ => true

/-- Why a text cannot be encoded: the place of its first half, or of all those that stand there one
after the other. -/
def encodingFault (s : String) : String :=
  let ps := pieces s.toList
  let place := (ps.takeWhile fun p => !p.isHalf).length
  let what := match (ps.drop place).takeWhile Piece.isHalf with
    | [.half unit] => " '" ++ String.ofList (quoteHalf unit) ++ "' in position " ++ toString place
    | halves => "s in position " ++ toString place ++ "-" ++ toString (place + halves.length - 1)
  "'utf-8' codec can't encode character" ++ what ++ ": surrogates not allowed"

end PairChat.Text
