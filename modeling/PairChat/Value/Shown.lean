import PairChat.Value
import PairChat.Text.Quoted

/-!
# Shown values: values in messages

`Value.plain` is a value as it stands in a message: a text is itself.  `Value.shown` is a value
inside another one: a text is quoted.  Lists stand in brackets, mappings and sets in braces, and the
words for the missing value and the truth values are those of `Scalar.shown`.  A value that is a
part of itself is shown as dots there.  Integers of too many digits cannot be written
(`Value.fits`).
-/

namespace PairChat

/-- A number in `width` digits. -/
def padded (width n : Nat) : String :=
  let ds := Nat.toDigits 10 n
  String.ofList (List.replicate (width - ds.length) '0' ++ ds)

/-- Texts one after the other, with a separator between them. -/
def separated (separator : String) : List String → String
  | [] => ""
  | [s] => s
  | s :: ss => s ++ separator ++ separated separator ss

namespace Day

/-- Year, month and day with lines between them. -/
def write (d : Day) : String := padded 4 d.year ++ "-" ++ padded 2 d.month ++ "-" ++ padded 2 d.day

end Day

namespace Clock

/-- Hours, minutes and seconds with colons, and the microseconds if there are any. -/
def write (t : Clock) : String :=
  padded 2 t.hour ++ ":" ++ padded 2 t.minute ++ ":" ++ padded 2 t.second
    ++ (if t.micro = 0 then "" else "." ++ padded 6 t.micro)

end Clock

/-- The distance from universal time in hours and minutes, and in seconds if they are not full. -/
def writeOffset (seconds : Int) : String :=
  let n := seconds.natAbs
  (if seconds < 0 then "-" else "+") ++ padded 2 (n / 3600) ++ ":" ++ padded 2 (n / 60 % 60)
    ++ (if n % 60 = 0 then "" else ":" ++ padded 2 (n % 60))

/-- A moment: day, time and offset. -/
def writeMoment (day : Day) (time : Clock) (offset : Option Int) : String :=
  day.write ++ " " ++ time.write ++ (offset.map writeOffset).getD ""

/-- A byte as it is shown. -/
def shownByte (quote : Char) (b : UInt8) : List Char :=
  let c := Char.ofNat b.toNat
  if c = quote ∨ c = '\\' then ['\\', c]
  else if c = '\n' then ['\\', 'n']
  else if c = '\r' then ['\\', 'r']
  else if c = '\t' then ['\\', 't']
  else if 0x20 ≤ b ∧ b < 0x7F then [c]
  else '\\' :: 'x' :: Text.hexDigits 2 b.toNat

namespace Scalar

/-- A scalar inside another value. -/
def shown : Scalar → String
  | .null => "None"
  | .bool true => "True"
  | .bool false => "False"
  | .int n => toString n
  | .real x => x.write "inf" "nan"
  | .text s => Text.quoted s
  | .date d => "datetime.date(" ++ separated ", " ([d.year, d.month, d.day].map toString) ++ ")"
  | .moment d t offset =>
    let head := [d.year, d.month, d.day, t.hour, t.minute].map toString
    let tail := if t.micro ≠ 0 then [toString t.second, toString t.micro]
      else if t.second ≠ 0 then [toString t.second] else []
    let zone := match offset with
      | none => []
      | some 0 => ["tzinfo=datetime.timezone.utc"]
      | some s =>
        let days := if s < 0 then "days=-1, " else ""
        ["tzinfo=datetime.timezone(datetime.timedelta(" ++ days ++ "seconds="
          ++ toString (s % 86400) ++ "))"]
    "datetime.datetime(" ++ separated ", " (head ++ tail ++ zone) ++ ")"
  | .bytes bs =>
    let cs := bs.map fun b => Char.ofNat b.toNat
    let quote := Text.quoteOf cs
    String.ofList ('b' :: quote :: bs.flatMap (shownByte quote) ++ [quote])

/-- A scalar in a message. -/
def plain : Scalar → String
  | .text s => s
  | .date d => d.write
  | .moment d t offset => writeMoment d t offset
  | s => s.shown

end Scalar

namespace Value

/-! ### Values with parts -/

/-- What stands for a value inside itself: its brackets or braces with dots between them. -/
def dots : Value → String
  | .map _ => "\x7b...\x7d"
  | .tuple _ => "(...)"
  | _ => "[...]"

mutual

/-- A value inside others. Of these, the shared ones are known by their marks. -/
def shownIn (around : List (Nat × String)) : Value → String
  | .scalar s => s.shown
  | .list items => "[" ++ separated ", " (shownItems around items) ++ "]"
  | .tuple items => "(" ++ separated ", " (shownItems around items) ++ ")"
  | .map entries => "\x7b" ++ separated ", " (shownEntries around entries) ++ "\x7d"
  | .set [] => "set()"
  | .set members => "\x7b" ++ separated ", " (members.map Scalar.shown) ++ "\x7d"
  | .shared mark _ v => match around.lookup mark with
    | some dots => dots
    | none => shownIn ((mark, v.dots) :: around) v
  | .again mark => (around.lookup mark).getD "..."

/-- The items of a list inside others. -/
def shownItems (around : List (Nat × String)) : List Value → List String
  | [] => []
  | v :: vs => shownIn around v :: shownItems around vs

/-- The entries of a mapping inside others. -/
def shownEntries (around : List (Nat × String)) : List (Scalar × Value) → List String
  | [] => []
  | (k, v) :: es => (k.shown ++ ": " ++ shownIn around v) :: shownEntries around es

end

/-- **A value inside another one.** -/
def shown (v : Value) : String := shownIn [] v

/-- **A value in a message.** -/
def plain (v : Value) : String :=
  match v.content with
  | .scalar s => s.plain
  | _ => v.shown

/-! ### Numbers that are too long -/

/-- The largest number of decimal digits that an integer is written with. -/
def longestInteger : Nat := 4300

/-- Can the integer be written? -/
def fitsInteger (n : Int) : Bool :=
  n.natAbs.log2 < 3 * longestInteger || n.natAbs < Nat.pow 10 longestInteger

/-- Can the scalar be written? -/
def scalarFits : Scalar → Bool
  | .int n => fitsInteger n
  | _ => true

mutual

/-- **Can the value be written**, with all the numbers in it? -/
def fits : Value → Bool
  | .scalar s => scalarFits s
  | .list items => allFit items
  | .tuple items => allFit items
  | .map entries => entriesFit entries
  | .set members => members.all scalarFits
  | .shared _ _ v => v.fits
  | .again _ => true

/-- Can all items be written? -/
def allFit : List Value → Bool
  | [] => true
  | v :: vs => v.fits && allFit vs

/-- Can all entries be written? -/
def entriesFit : List (Scalar × Value) → Bool
  | [] => true
  | (k, v) :: es => scalarFits k && v.fits && entriesFit es

end

end Value

end PairChat
