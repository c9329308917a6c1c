/-!
# Decimals: the written form of binary numbers

A number that is read from a document and is no integer is kept as the decimal that is written for
it.  Reading rounds to the nearest number of 53 binary digits (`Binary.ofRatio`, ties to even), and
the written form is the shortest decimal that rounds to the same number (`Binary.shortest`), so two
numbers are the same exactly when their decimals are.

* rounding: `Binary.ofRatio` finds mantissa and exponent of the nearest binary number;
* shortening: `Binary.shortest` tries 1, 2, …, 17 digits and takes the first grid with a hit;
* writing: `Decimal.write` is positional from `10⁻⁴` up to `10¹⁶` and scientific elsewhere.
-/

namespace PairChat

/-- The number `± digits · 10 ^ exponent`. -/
structure Decimal where
  negative : Bool
  digits : Nat
  exponent : Int
deriving DecidableEq, Repr, Inhabited

/-- A number that is no integer by form: a decimal, one of the two infinities, or no number. -/
inductive Real where
  | finite (value : Decimal)
  | infinite (negative : Bool)
  | undefined
deriving DecidableEq, Repr, Inhabited

/-! ### Binary numbers -/

/-- The number `mantissa · 2 ^ exponent`. -/
structure Binary where
  mantissa : Nat
  exponent : Int
deriving DecidableEq, Repr

namespace Binary

/-- The exponent of the smallest positive number. -/
def leastExponent : Int := -1074

/-- The largest exponent of a full mantissa. -/
def greatestExponent : Int := 971

/-- The quotient rounded to the nearest natural number, a half to the even neighbour. -/
def roundQuotient (num den : Nat) : Nat :=
  let q := num / den
  let r := num % den
  if 2 * r < den then q else if den < 2 * r then q + 1 else q + q % 2

/-- The ratio `num / den` divided by `base ^ e`, as a ratio. -/
def scaleRatio (base num den : Nat) (e : Int) : Nat × Nat :=
  if 0 ≤ e then (num, den * Nat.pow base e.toNat) else (num * Nat.pow base (-e).toNat, den)

/-- Every mantissa lies below this limit, and a full one lies in its upper half. -/
def mantissaLimit : Nat := Nat.pow 2 53

/-- The binary number nearest to a positive ratio; `none` beyond the largest number. -/
def ofRatio (num den : Nat) : Option Binary :=
  let low : Int := max ((num.log2 : Int) - (den.log2 : Int) - 53) leastExponent
  let floorAt (q : Int) : Nat := let (a, b) := scaleRatio 2 num den q; a / b
  let q := if floorAt low < mantissaLimit then low else low + 1
  let (a, b) := scaleRatio 2 num den q
  let m := roundQuotient a b
  let rounded : Binary := if m = mantissaLimit then ⟨mantissaLimit / 2, q + 1⟩ else ⟨m, q⟩
  if greatestExponent < rounded.exponent then none else some rounded

/-- The value of a binary number as a ratio. -/
def ratio (b : Binary) : Nat × Nat := scaleRatio 2 b.mantissa 1 (-b.exponent)

/-- The number of decimal digits of a natural number. -/
def width (n : Nat) : Nat := (Nat.toDigits 10 n).length

/-- The binary number nearest to `digits · 10 ^ exponent`. Exponents that no number reaches are cut
off before anything is computed. -/
def ofScientific (digits : Nat) (exponent : Int) : Option Binary :=
  let top : Int := width digits + exponent
  if digits = 0 ∨ top < -400 then some ⟨0, 0⟩
  else if 400 < top then none
  else
    let (num, den) := scaleRatio 10 digits 1 (-exponent)
    ofRatio num den

/-- The binary number nearest to a sum. -/
def add (a b : Binary) : Option Binary :=
  let (n, d) := a.ratio
  let (m, e) := b.ratio
  ofRatio (n * e + m * d) (d * e)

/-- The binary number nearest to a product. -/
def times (a b : Binary) : Option Binary :=
  let (n, d) := a.ratio
  let (m, e) := b.ratio
  ofRatio (n * m) (d * e)

/-- The numbers that round to `b` lie between these two multiples of `2 ^ (exponent - 2)`. -/
def bounds (b : Binary) : Nat × Nat :=
  let below := if b.mantissa = mantissaLimit / 2 ∧ leastExponent < b.exponent then 1 else 2
  (4 * b.mantissa - below, 4 * b.mantissa + 2)

/-- Does the decimal `n · 10 ^ k` round to `b`? The ends of the interval do when the mantissa is
even. -/
def roundsFrom (b : Binary) (n : Nat) (k : Int) : Bool :=
  let (num, den) := scaleRatio 10 n 1 (-k)
  let (a, c) := scaleRatio 2 num den (b.exponent - 2)
  let (lo, hi) := b.bounds
  if b.mantissa % 2 = 0 then lo * c ≤ a && a ≤ hi * c else lo * c < a && a < hi * c

/-- The largest `e` with `10 ^ e ≤ num / den`. -/
def magnitude (num den : Nat) : Int :=
  let guess : Int := (width num : Int) - (width den : Int)
  let (a, b) := scaleRatio 10 num den guess
  if b ≤ a then guess else guess - 1

/-- Of the two neighbours of `b` with the last digit at `10 ^ k`, the one that rounds to `b`; of
two, the nearer. -/
def neighbour? (b : Binary) (num den : Nat) (k : Int) : Option Nat :=
  let (a, c) := scaleRatio 10 num den k
  let n := a / c
  match b.roundsFrom n k, b.roundsFrom (n + 1) k with
  | true, true => some (roundQuotient a c)
  | true, false => some n
  | false, true => some (n + 1)
  | false, false => none

/-- A decimal without zeros at its end. -/
def trim : Nat → Nat → Int → Nat × Int
  | 0, n, k => (n, k)
  | fuel + 1, n, k => if n ≠ 0 ∧ n % 10 = 0 then trim fuel (n / 10) (k + 1) else (n, k)

/-- **The shortest decimal that rounds to `b`.** -/
def shortest (b : Binary) : Nat × Int :=
  let (num, den) := b.ratio
  let e := magnitude num den
  let found := (List.range 17).findSome? fun (i : Nat) =>
    let k := e - (i : Int)
    (b.neighbour? num den k).map fun n => (n, k)
  let (n, k) := found.getD (0, 0)
  trim 20 n k

end Binary

/-! ### Reading and writing -/

namespace Decimal

/-- The decimal zero. -/
def zero : Decimal := ⟨false, 0, 0⟩

/-- A whole number. -/
def ofNat (n : Nat) : Decimal := ⟨false, n, 0⟩

/-- Below zero. -/
def isNegative (d : Decimal) : Bool := d.negative && d.digits != 0

/-- Above zero. -/
def isPositive (d : Decimal) : Bool := !d.negative && d.digits != 0

/-- A binary number with a sign in its shortest written form, or an infinite number. -/
def ofBinary (negative : Bool) : Option Binary → Real
  | none => .infinite negative
  | some b =>
    if b.mantissa = 0 then .finite ⟨negative, 0, 0⟩
    else
      let (n, k) := b.shortest
      .finite ⟨negative, n, k⟩

/-- The number with the shortest written form that `± digits · 10 ^ exponent` rounds to. -/
def nearest (negative : Bool) (digits : Nat) (exponent : Int) : Real :=
  ofBinary negative (Binary.ofScientific digits exponent)

/-- The integer that a number is whose written form is the decimal, if it is one. -/
def toInt? (d : Decimal) : Option Int := do
  let (num, den) := (← Binary.ofScientific d.digits d.exponent).ratio
  let sign : Int := if d.negative then -1 else 1
  if num % den = 0 then some (sign * (num / den : Nat)) else none

/-- Digits without sign: positional while the point falls between the fourth zero before the digits
and the sixteenth place, scientific with a two-digit exponent elsewhere. -/
def writeMagnitude (d : Decimal) : String :=
  let ds := Nat.toDigits 10 d.digits
  let len : Int := ds.length
  let point : Int := len + d.exponent
  if d.digits = 0 then "0.0"
  else if -4 < point ∧ point ≤ 16 then
    if point ≤ 0 then "0." ++ String.ofList (List.replicate (-point).toNat '0' ++ ds)
    else if len ≤ point then
      String.ofList (ds ++ List.replicate (point - len).toNat '0') ++ ".0"
    else String.ofList (ds.take point.toNat) ++ "." ++ String.ofList (ds.drop point.toNat)
  else
    let e := point - 1
    let digitsOfExponent := Nat.toDigits 10 e.natAbs
    let padded := if digitsOfExponent.length < 2 then '0' :: digitsOfExponent else digitsOfExponent
    let head := String.ofList (ds.take 1)
    let tail := if ds.length ≤ 1 then "" else "." ++ String.ofList (ds.drop 1)
    head ++ tail ++ "e" ++ (if e < 0 then "-" else "+") ++ String.ofList padded

/-- The written form of a decimal. -/
def write (d : Decimal) : String :=
  (if d.negative then "-" else "") ++ d.writeMagnitude

end Decimal

namespace Real

/-- The written form of a number, with the words of the format for the values without digits. -/
def write (infinity undefinedWord : String) : Real → String
  | .finite d => d.write
  | .infinite negative => (if negative then "-" else "") ++ infinity
  | .undefined => undefinedWord

/-- Is the number zero? -/
def isZero : Real → Bool
  | .finite d => d.digits == 0
  | _ => false

end Real

end PairChat
