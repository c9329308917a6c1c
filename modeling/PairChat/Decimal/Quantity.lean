import PairChat.Text.Numeral

/-!
# Quantities: numbers to calculate with

A quantity is a binary number with a sign, one of the two infinities, or no number.  Sums and
products are rounded to the nearest binary number, and are infinite beyond the largest one.
-/

namespace PairChat

/-- A number to calculate with. -/
inductive Quantity where
  | finite (negative : Bool) (size : Binary)
  | infinite (negative : Bool)
  | undefined
deriving DecidableEq, Repr

namespace Quantity

/-- The number zero. -/
def zero : Quantity := .finite false ⟨0, 0⟩

/-- A binary number with a sign, or an infinity. -/
def ofBinary (negative : Bool) : Option Binary → Quantity
  | some b => .finite negative b
  | none => .infinite negative

/-- The number that is written by hand. -/
def ofSize (negative : Bool) : Text.Numeral.Size → Quantity
  | .finite digits exponent => ofBinary negative (Binary.ofScientific digits exponent)
  | .infinite => .infinite negative
  | .undefined => .undefined

/-- The number with the other sign. -/
def negate : Quantity → Quantity
  | .finite negative b => .finite (!negative) b
  | .infinite negative => .infinite (!negative)
  | .undefined => .undefined

/-- The sum of two numbers. The sum of opposite ones is zero. -/
def add : Quantity → Quantity → Quantity
  | .undefined, _ | _, .undefined => .undefined
  | .infinite m, .infinite n => if m = n then .infinite m else .undefined
  | .infinite m, .finite .. | .finite .., .infinite m => .infinite m
  | .finite m a, .finite n b =>
    if m = n then ofBinary m (a.add b)
    else
      let (num, den) := a.ratio
      let (num', den') := b.ratio
      let (x, y) := (num * den', num' * den)
      if x = y then zero
      else if y < x then ofBinary m (Binary.ofRatio (x - y) (den * den'))
      else ofBinary n (Binary.ofRatio (y - x) (den * den'))

/-- The product with a number above zero. -/
def times (b : Binary) : Quantity → Quantity
  | .finite negative a => ofBinary negative (a.times b)
  | q => q

/-- The number in its shortest written form. -/
def toReal : Quantity → Real
  | .finite negative b => Decimal.ofBinary negative (some b)
  | .infinite negative => .infinite negative
  | .undefined => .undefined

end Quantity

end PairChat
