import PairChat.Decimal.Quantity
import PairChat.Failure
import PairChat.Text.Bytes
import PairChat.Yaml.Tag

/-!
# Typed scalars: what a text with a tag stands for

`Scalar.ofTagged` reads the text of a scalar as its tag says.  A text whose form shows its tag can
be read, but for days that the calendar does not have and numbers without digits or with too many; a
text with a tag that was written for it is read as a numeral, and may fail in other ways.
-/

namespace PairChat.Yaml

/-! ### Integers -/

/-- The parts between colons. -/
def colonParts : List Char → List (List Char)
  | [] => [[]]
  | c :: cs =>
    if c = ':' then [] :: colonParts cs
    else match colonParts cs with
      | [] => [[c]]
      | p :: ps => (c :: p) :: ps

/-- A text without its sign, whether the sign says that it is below zero, and a failure if nothing
is left. -/
def signed (cs : List Char) : Except Failure (Bool × List Char) :=
  match Text.Numeral.unsigned cs with
  | (_, []) => .error (.shape .index)
  | r => .ok r

/-- The integer of a numeral. -/
def integerOf (base : Nat) (cs : List Char) : Except Failure Int :=
  match Text.Numeral.integer? base cs with
  | some n => .ok n
  | none => .error (.shape .value)

/-- The number with the given parts of base sixty, the largest first. -/
def sixties (parts : List Int) : Int := parts.foldl (fun n m => 60 * n + m) 0

/-- The integer that a text without sign writes. -/
def unsignedOf : List Char → Except Failure Int
  | '0' :: 'b' :: bs => integerOf 2 bs
  | '0' :: 'x' :: hs => integerOf 16 hs
  | ['0'] => .ok 0
  | '0' :: os => integerOf 8 ('0' :: os)
  | ds =>
    if ds.contains ':' then ((colonParts ds).mapM (integerOf 10)).map sixties else integerOf 10 ds

/-- The integer that a text writes. -/
def intOf (s : String) : Except Failure Int := do
  let (isNegative, cs) ← signed (s.toList.filter (· != '_'))
  let n ← unsignedOf cs
  return if isNegative then -n else n

/-! ### Other numbers -/

/-- The number of a numeral. -/
def quantityOf (cs : List Char) : Except Failure Quantity :=
  match Text.Numeral.real? cs with
  | some (isNegative, size) => .ok (.ofSize isNegative size)
  | none => .error (.shape .value)

/-- The sum of parts of base sixty, the largest first. It is taken from the last part on, and
rounded at every step. -/
def sixtiesSum (parts : List Quantity) : Except Failure Quantity :=
  parts.reverse.zipIdx.foldlM (fun sum (part, place) =>
    match Binary.ofRatio (Nat.pow 60 place) 1 with
    | some weight => .ok (sum.add (part.times weight))
    | none => .error (.shape .overflow)) .zero

/-- The number that a text writes. -/
def realOf (s : String) : Except Failure Real := do
  let (isNegative, cs) ← match s.toList.filter (· != '_') |>.map Char.toLower with
    | [] => .error (.shape .index)
    | cs => .ok (Text.Numeral.unsigned cs)
  if cs = ".inf".toList then return .infinite isNegative
  else if cs = ".nan".toList then return .undefined
  else
    let q ←
      if cs.contains ':' then do sixtiesSum (← (colonParts cs).mapM quantityOf) else quantityOf cs
    return (if isNegative then q.negate else q).toReal

/-! ### Days and moments -/

/-- How many days a month has. -/
def daysOf (year month : Nat) : Nat :=
  if month = 2 then (if year % 4 = 0 ∧ (year % 100 ≠ 0 ∨ year % 400 = 0) then 29 else 28)
  else if month = 4 ∨ month = 6 ∨ month = 9 ∨ month = 11 then 30 else 31

/-- The number that decimal digits write. -/
def decimal (ds : List Char) : Nat := Text.Numeral.decimalValue ds

/-- Does the calendar have the day? -/
def isDay (d : Day) : Bool :=
  1 ≤ d.year && 1 ≤ d.month && d.month ≤ 12 && 1 ≤ d.day && d.day ≤ daysOf d.year d.month

/-- The distance from universal time in seconds. -/
def offsetOf (sign : Char) (hours minutes : List Char) : Int :=
  let n : Int := decimal hours * 3600 + decimal minutes * 60
  if sign = '-' then -n else n

/-- The day or moment with the given parts. -/
def momentOf (m : Tag.MomentText) : Except Failure PairChat.Scalar :=
  let day : Day := ⟨decimal m.year, decimal m.month, decimal m.day⟩
  match m.time with
  | none => if isDay day then .ok (.date day) else .error (.shape .value)
  | some (hour, minute, second, fraction) =>
    let micro := decimal ((fraction ++ List.replicate 6 '0').take 6)
    let time : Clock := ⟨decimal hour, decimal minute, decimal second, micro⟩
    let offset : Option Int := m.zone.map fun z =>
      match z with
      | none => 0
      | some (sign, hours, minutes) => offsetOf sign hours minutes
    let offsetFits := (offset.map Int.natAbs).all (· < 86400)
    if isDay day && offsetFits && time.hour < 24 && time.minute < 60 && time.second < 60 then
      .ok (.moment day time offset)
    else .error (.shape .value)

/-! ### Scalars by tag -/

/-- The truth value that a word stands for. -/
def boolOf (s : String) : Except Failure Bool :=
  let word := String.ofList (s.toList.map Char.toLower)
  if ["yes", "true", "on"].contains word then .ok true
  else if ["no", "false", "off"].contains word then .ok false
  else .error (.shape .key)

/-- **What a text with a tag stands for.** -/
def Scalar.ofTagged (tag : Tag) (s : String) : Except Failure PairChat.Scalar :=
  match tag with
  | .null => .ok .null
  | .bool => (boolOf s).map .bool
  | .int => (intOf s).map .int
  | .real => (realOf s).map .real
  | .text => .ok (.text s)
  | .moment => match Tag.moment? false (Tag.withoutFeed s.toList) with
    | some m => momentOf m
    | none => .error (.shape .attribute)
  | .bytes => match Text.Bytes.decode? s with
    | some bs => .ok (.bytes bs)
    | none => .error .badYaml
  | .merge | .default | .list | .map | .set | .orderedMap | .pairs | .unknown => .error .badYaml

end PairChat.Yaml
