/-!
# Punycode

`encode` writes a text with ASCII characters alone: first those of the text that are, then where the
others come in, by increasing code point.  A place is a number with digits of 36 values, the last of
which falls below a threshold that follows the numbers before it (`adapt`).  `decode?` reads such a
text.
-/

namespace PairChat.Web.HostName.Punycode

/-- The threshold of the digit at a place. -/
def threshold (bias place : Nat) : Nat := max 1 (min 26 (36 * (place + 1) - bias))

theorem threshold_pos (bias place : Nat) : 0 < threshold bias place := by
  unfold threshold
  omega

/-- A step divided by 35 until it is at most 455, and 36 for each division. -/
def damp (delta : Nat) : Nat × Nat :=
  if _h : 455 < delta then
    let (delta, bias) := damp (delta / 35)
    (delta, bias + 36)
  else (delta, 0)
termination_by delta
decreasing_by exact Nat.div_lt_self (by omega) (by omega)

/-- The bias after a step, with `size` characters in the text. -/
def adapt (delta size : Nat) (isFirst : Bool) : Nat :=
  let delta := if isFirst then delta / 700 else delta / 2
  let (delta, bias) := damp (delta + delta / size)
  bias + 36 * delta / (delta + 38)

/-- The bias at the start. -/
def firstBias : Nat := 72

/-- The first code point that is not ASCII. -/
def firstCode : Nat := 0x80

/-! ### Writing -/

/-- A digit. -/
def digit (n : Nat) : Char := Char.ofNat (if n < 26 then 0x61 + n else 0x30 + (n - 26))

/-- The digits of a number from a place on. -/
def number (bias place n : Nat) : List Char :=
  let t := threshold bias place
  if h : n < t then [digit n]
  else digit (t + (n - t) % (36 - t)) :: number bias (place + 1) ((n - t) / (36 - t))
termination_by n
decreasing_by
  have := threshold_pos bias place
  exact Nat.lt_of_le_of_lt (Nat.div_le_self _ _) (by omega)

/-- What has been written: how many characters there are, the step to the next one, and the
digits. -/
structure Writing where
  size : Nat
  delta : Nat
  bias : Nat
  isFirst : Bool
  digits : List Char

/-- All characters of one code point are put in. -/
def Writing.put (text : List Char) (w : Writing) (code : Nat) : Writing :=
  text.foldl (fun w c =>
    if c.toNat < code then { w with delta := w.delta + 1 }
    else if c.toNat = code then {
      size := w.size + 1
      delta := 0
      bias := adapt w.delta (w.size + 1) w.isFirst
      isFirst := false
      digits := w.digits ++ number w.bias 0 w.delta }
    else w) w

/-- The code points of a text that are not ASCII, in increasing order. -/
def codes (text : List Char) : List Nat :=
  ((text.map Char.toNat).filter (firstCode ≤ ·)).eraseDups.mergeSort (· ≤ ·)

/-- **A text in ASCII characters.** -/
def encode (text : List Char) : List Char :=
  let plain := text.filter fun c => c.toNat < firstCode
  let start : Writing := ⟨plain.length, 0, firstBias, true, []⟩
  let (written, _) := (codes text).foldl (fun (w, next) code =>
    let w := { w with delta := w.delta + (code - next) * (w.size + 1) }
    let w := w.put text code
    ({ w with delta := w.delta + 1 }, code + 1)) (start, firstCode)
  (if plain.isEmpty then [] else plain ++ ['-']) ++ written.digits

/-! ### Reading -/

/-- The value of a digit. -/
def digitValue? (c : Char) : Option Nat :=
  if c.isLower then some (c.toNat - 0x61)
  else if c.isUpper then some (c.toNat - 0x41)
  else if c.isDigit then some (c.toNat - 0x30 + 26)
  else none

/-- What has been read: the text, the code point and the place of the next character, and the number
that is being read. -/
structure Reading where
  text : List Char
  code : Nat
  position : Nat
  bias : Nat
  isFirst : Bool
  delta : Nat
  weight : Nat
  place : Nat

/-- A character is put in after its number was read. -/
def Reading.put? (r : Reading) : Option Reading :=
  let size := r.text.length + 1
  let position := r.position + r.delta
  let code := r.code + position / size
  if code.isValidChar then some {
    text := r.text.take (position % size) ++ Char.ofNat code :: r.text.drop (position % size)
    code
    position := position % size + 1
    bias := adapt r.delta size r.isFirst
    isFirst := false
    delta := 0
    weight := 1
    place := 0 }
  else none

/-- One digit is read. -/
def Reading.digit? (r : Reading) (n : Nat) : Option Reading :=
  let t := threshold r.bias r.place
  let r := { r with delta := r.delta + n * r.weight }
  if n < t then r.put? else some { r with weight := r.weight * (36 - t), place := r.place + 1 }

/-- **The text that is written so**, `none` if a number is not complete or no character has its code
point. -/
def decode? (cs : List Char) : Option (List Char) := do
  let digits := (cs.reverse.takeWhile (· != '-')).reverse
  let plain := cs.take (cs.length - digits.length - 1)
  let values ← digits.mapM digitValue?
  let read ← values.foldlM Reading.digit? ⟨plain, firstCode, 0, firstBias, true, 0, 1, 0⟩
  if read.place = 0 then some read.text else none

end PairChat.Web.HostName.Punycode
