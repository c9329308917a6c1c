import PairChat.Decimal

/-!
# Numerals: numbers as they are written by hand

A numeral is a text that stands for a number where a person writes one: blanks may surround it, a
sign may stand before it, and single underscores may stand between its digits.  The digits of every
script count (`zeros`).

* `integer` is the integer of a numeral in a base, where the letter for the base may stand before
  the digits; a decimal numeral has a greatest length;
* `isLiteral` says whether a text is an integer whose base is shown by its first characters;
* `real` is the number of a numeral with a point, an exponent, or one of the words for infinity and
  for what is no number;
* `isComplex` says whether a text is the sum of a real number and an imaginary one, either of which
  may be missing.
-/

namespace PairChat.Text.Numeral

/-! ### Digits -/

/-- The zeros of all scripts, each of which is followed by the other nine digits. -/
def zeros : List Nat := [
  0x30, 0x660, 0x6F0, 0x7C0, 0x966, 0x9E6, 0xA66, 0xAE6, 0xB66, 0xBE6, 0xC66, 0xCE6, 0xD66, 0xDE6,
  0xE50, 0xED0, 0xF20, 0x1040, 0x1090, 0x17E0, 0x1810, 0x1946, 0x19D0, 0x1A80, 0x1A90, 0x1B50,
  0x1BB0, 0x1C40, 0x1C50, 0xA620, 0xA8D0, 0xA900, 0xA9D0, 0xA9F0, 0xAA50, 0xABF0, 0xFF10, 0x104A0,
  0x10D30, 0x11066, 0x110F0, 0x11136, 0x111D0, 0x112F0, 0x11450, 0x114D0, 0x11650, 0x116C0,
  0x11730, 0x118E0, 0x11950, 0x11C50, 0x11D50, 0x11DA0, 0x16A60, 0x16AC0, 0x16B50, 0x1D7CE,
  0x1D7D8, 0x1D7E2, 0x1D7EC, 0x1D7F6, 0x1E140, 0x1E2F0, 0x1E950, 0x1FBF0]

/-- The blanks beyond ASCII that may surround a numeral. -/
def wideBlanks : List (Nat × Nat) :=
  [(0x85, 0x85), (0xA0, 0xA0), (0x1680, 0x1680), (0x2000, 0x200A), (0x2028, 0x2029),
    (0x202F, 0x202F),
    (0x205F, 0x205F), (0x3000, 0x3000)]

/-- A character of a numeral in ASCII, if it has a counterpart there. -/
def plainChar (c : Char) : Char :=
  let n := c.toNat
  if n < 127 then c
  else if wideBlanks.any fun r => r.1 ≤ n && n ≤ r.2 then ' '
  else match zeros.find? fun z => z ≤ n && n < z + 10 with
    | some z => Char.ofNat (0x30 + (n - z))
    | none => c

/-- Does the character surround a numeral? -/
def isSpace (c : Char) : Bool := c == ' ' || (0x09 ≤ c.toNat && c.toNat ≤ 0x0D)

/-- A numeral in ASCII without the blanks around it. -/
def trimmed (cs : List Char) : List Char :=
  (((cs.map plainChar).dropWhile isSpace).reverse.dropWhile isSpace).reverse

/-- A numeral after its sign, and whether the sign says that it is below zero. -/
def unsigned : List Char → Bool × List Char
  | '-' :: cs => (true, cs)
  | '+' :: cs => (false, cs)
  | cs => (false, cs)

/-- The value of a digit of a base. -/
def digit? (base : Nat) (c : Char) : Option Nat :=
  let value :=
    if c.isDigit then c.toNat - '0'.toNat
    else if c.isAlpha then c.toLower.toNat - 'a'.toNat + 10
    else base
  if value < base then some value else none

/-- The digits of a base with single underscores between them. -/
def digits? (base : Nat) : List Char → Option (List Nat)
  | [] => none
  | [c] => (digit? base c).map ([·])
  | c :: '_' :: cs => do return (← digit? base c) :: (← digits? base cs)
  | c :: cs => do return (← digit? base c) :: (← digits? base cs)

/-- The number that digits write. -/
def ofDigits (base : Nat) (ds : List Nat) : Nat := ds.foldl (fun n d => base * n + d) 0

/-! ### Integers -/

/-- How many decimal digits a number may be read from or written with. -/
def longest : Nat := 4300

/-- The digits after the letter for a base, if it is written. -/
def afterLetter (base : Nat) (cs : List Char) : List Char :=
  let letter := if base = 2 then 'b' else if base = 8 then 'o' else if base = 16 then 'x' else '0'
  match cs with
  | '0' :: c :: rest =>
    if c.toLower = letter ∧ letter ≠ '0' then
      match rest with
      | '_' :: rest => rest
      | rest => rest
    else cs
  | cs => cs

/-- **The integer of a numeral.** Only a decimal one can be too long. -/
def integer? (base : Nat) (cs : List Char) : Option Int := do
  let (isNegative, cs) := unsigned (trimmed cs)
  let ds ← digits? base (afterLetter base cs)
  if base = 10 ∧ longest < ds.length then none
  else
    let n : Int := ofDigits base ds
    some (if isNegative then -n else n)

/-- Is the text an integer whose base is shown by its first characters? A decimal one begins with no
zero, unless it is zero. -/
def isLiteral (cs : List Char) : Bool :=
  let (_, ds) := unsigned (trimmed cs)
  let isIn (base : Nat) : Bool :=
    (digits? base (afterLetter base ds)).any fun ns => base != 10 || ns.length ≤ longest
  match ds with
  | '0' :: c :: _ =>
    match c.toLower with
    | 'b' => isIn 2
    | 'o' => isIn 8
    | 'x' => isIn 16
    | _ => (digits? 10 ds).any fun ns => ns.all (· == 0)
  | _ => isIn 10

/-! ### Other numbers -/

/-- A number without sign: digits and an exponent, or one of the words. -/
inductive Size where
  | finite (digits : Nat) (exponent : Int)
  | infinite
  | undefined
deriving DecidableEq, Repr

/-- A numeral without its underscores, each of which has to stand between two digits. -/
def ungrouped? : List Char → Option (List Char)
  | [] => some []
  | '_' :: _ => none
  | c :: '_' :: d :: cs =>
    if c.isDigit && d.isDigit then (ungrouped? (d :: cs)).map (c :: ·) else none
  | c :: cs => (ungrouped? cs).map (c :: ·)

/-- The rest after a word in any case, if the text begins with it. -/
def afterWord? (word : String) (cs : List Char) : Option (List Char) :=
  let n := word.length
  if (cs.take n).map Char.toLower = word.toList then some (cs.drop n) else none

/-- The number that decimal digits write. -/
def decimalValue (ds : List Char) : Nat := ds.foldl (fun n d => 10 * n + (d.toNat - '0'.toNat)) 0

/-- The exponent at the beginning of a text and the rest, where nothing is an exponent of zero. -/
def exponentAt (cs : List Char) : Int × List Char :=
  match cs with
  | e :: rest =>
    if e = 'e' ∨ e = 'E' then
      let (isNegative, rest) := unsigned rest
      let ds := rest.takeWhile Char.isDigit
      if ds.isEmpty then (0, cs)
      else
        let n : Int := decimalValue ds
        (if isNegative then -n else n, rest.dropWhile Char.isDigit)
    else (0, cs)
  | [] => (0, cs)

/-- The longest number without sign at the beginning of a text, and the rest. -/
def sizeAt? (cs : List Char) : Option (Size × List Char) :=
  match afterWord? "infinity" cs, afterWord? "inf" cs, afterWord? "nan" cs with
  | some rest, _, _ | none, some rest, _ => some (.infinite, rest)
  | none, none, some rest => some (.undefined, rest)
  | none, none, none =>
    let whole := cs.takeWhile Char.isDigit
    let rest := cs.dropWhile Char.isDigit
    let (fraction, rest) := match rest with
      | '.' :: rest' =>
        if whole.isEmpty && !rest'.head?.any Char.isDigit then ([], rest)
        else (rest'.takeWhile Char.isDigit, rest'.dropWhile Char.isDigit)
      | rest => ([], rest)
    if whole.isEmpty && fraction.isEmpty then none
    else
      let (exponent, rest) := exponentAt rest
      some (.finite (decimalValue (whole ++ fraction)) (exponent - fraction.length), rest)

/-- The longest number at the beginning of a text, whether it is below zero, and the rest. -/
def realAt? (cs : List Char) : Option (Bool × Size × List Char) :=
  let (isNegative, cs) := unsigned cs
  (sizeAt? cs).map fun (size, rest) => (isNegative, size, rest)

/-- **The number of a numeral**, and whether it is below zero. -/
def real? (cs : List Char) : Option (Bool × Size) := do
  match ← realAt? (← ungrouped? (trimmed cs)) with
  | (isNegative, size, []) => some (isNegative, size)
  | _ => none

/-- Is the text the mark of an imaginary number? -/
def isImaginaryMark (cs : List Char) : Bool := cs == ['j'] || cs == ['J']

/-- **Is the text a complex number?** -/
def isComplex (cs : List Char) : Bool :=
  match ungrouped? (trimmed cs) with
  | none => false
  | some cs =>
    match realAt? cs with
    | none => isImaginaryMark (unsigned cs).2
    | some (_, _, rest) =>
      rest.isEmpty || isImaginaryMark rest || match rest with
        | sign :: more => (sign == '+' || sign == '-') && match realAt? rest with
          | some (_, _, last) => isImaginaryMark last
          | none => isImaginaryMark more
        | [] => false

end PairChat.Text.Numeral
