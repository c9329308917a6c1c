/-!
# Tags: what kind of value a node is

A node has the tag that is written for it, or the tag that the form of its text shows.
`Tag.ofPlain` is the tag of a plain scalar: each of the forms is a test on the text, and a text that
has none of them is a text.
-/

namespace PairChat.Yaml

/-- The kind of value that a node is. -/
inductive Tag where
  | null
  | bool
  | int
  | real
  | bytes
  | moment
  | merge
  | default
  | text
  | list
  | map
  | set
  | orderedMap
  | pairs
  | unknown
deriving DecidableEq, Repr

namespace Tag

/-- What the names of all known tags begin with. -/
def base : String := "tag:yaml.org,2002:"

/-- The known tags by the end of their names. -/
def names : List (String × Tag) :=
  [("null", .null), ("bool", .bool), ("int", .int), ("float", .real), ("binary", .bytes),
    ("timestamp", .moment), ("merge", .merge), ("value", .default), ("str", .text), ("seq", .list),
    ("map", .map), ("set", .set), ("omap", .orderedMap), ("pairs", .pairs)]

/-- The tag with a given name. -/
def ofName (name : String) : Tag :=
  ((names.find? fun n => base ++ n.1 == name).map (·.2)).getD .unknown

/-! ### Forms of plain scalars -/

/-- The words for the missing value. -/
def nullWords : List String := ["", "~", "null", "Null", "NULL"]

/-- The indicators that are no text alone. -/
def loneMarks : List String := ["!", "&", "*"]

/-- The words for the truth values. -/
def boolWords : List String :=
  ["yes", "Yes", "YES", "no", "No", "NO", "true", "True", "TRUE", "false", "False", "FALSE",
    "on", "On", "ON", "off", "Off", "OFF"]

/-- A digit or an underscore. -/
def isDigitOrBar (c : Char) : Bool := c.isDigit || c == '_'

/-- A binary digit or an underscore. -/
def isBinaryOrBar (c : Char) : Bool := c == '0' || c == '1' || c == '_'

/-- An octal digit or an underscore. -/
def isOctalOrBar (c : Char) : Bool := ('0' ≤ c && c ≤ '7') || c == '_'

/-- A hexadecimal digit or an underscore. -/
def isHexOrBar (c : Char) : Bool :=
  isDigitOrBar c || ('a' ≤ c && c ≤ 'f') || ('A' ≤ c && c ≤ 'F')

/-- A text without the sign that may stand before it. -/
def unsigned : List Char → List Char
  | '+' :: cs | '-' :: cs => cs
  | cs => cs

/-- One of the characters or more, and no others. -/
def all1 (p : Char → Bool) (cs : List Char) : Bool := !cs.isEmpty && cs.all p

/-- Parts of base sixty, each after a colon, of which there is at least one; `close` tests what
follows them. -/
def isSixties (close : List Char → Bool) : Nat → List Char → Bool
  | 0, _ => false
  | fuel + 1, ':' :: a :: cs =>
    let more (cs : List Char) : Bool := close cs || isSixties close fuel cs
    (a.isDigit && more cs) || match cs with
      | b :: cs => '0' ≤ a && a ≤ '5' && b.isDigit && more cs
      | [] => false
  | _, _ => false

/-- Parts of base sixty after the digits that come first. -/
def hasSixties (close : List Char → Bool) (cs : List Char) : Bool :=
  isSixties close (cs.length + 1) (cs.dropWhile isDigitOrBar)

/-- The form of an integer: binary, octal, decimal, hexadecimal, or parts of base sixty. -/
def isIntForm (cs : List Char) : Bool :=
  match unsigned cs with
  | '0' :: 'b' :: ds => all1 isBinaryOrBar ds
  | '0' :: 'x' :: ds => all1 isHexOrBar ds
  | '0' :: ds => ds.all isOctalOrBar
  | d :: ds => d.isDigit && (ds.all isDigitOrBar || hasSixties List.isEmpty ds)
  | [] => false

/-- An exponent with a sign, or nothing. -/
def isExponent : List Char → Bool
  | [] => true
  | e :: sign :: ds =>
    (e == 'e' || e == 'E') && (sign == '-' || sign == '+') && all1 Char.isDigit ds
  | _ => false

/-- A point with digits after it, and an exponent. -/
def isFraction : List Char → Bool
  | '.' :: ds => isExponent (ds.dropWhile isDigitOrBar)
  | _ => false

/-- A point with digits after it at the end. -/
def isLastFraction : List Char → Bool
  | '.' :: ds => ds.all isDigitOrBar
  | _ => false

/-- The words for the infinities and for what is no number. -/
def isSpecialReal (cs : List Char) : Bool :=
  [".inf", ".Inf", ".INF"].any (fun w => unsigned cs == w.toList)
    || [".nan", ".NaN", ".NAN"].any fun w => cs == w.toList

/-- The form of a number with a point. -/
def isRealForm (cs : List Char) : Bool :=
  isSpecialReal cs || match cs with
  | '.' :: d :: ds => d.isDigit && isExponent (ds.dropWhile isDigitOrBar)
  | cs => match unsigned cs with
    | d :: ds => d.isDigit
        && (isFraction (ds.dropWhile isDigitOrBar) || hasSixties isLastFraction ds)
    | [] => false

/-- Between `least` and `most` digits, and what follows them. -/
def digits? (least most : Nat) (cs : List Char) : Option (List Char × List Char) :=
  let ds := (cs.take most).takeWhile Char.isDigit
  if least ≤ ds.length then some (ds, cs.drop ds.length) else none

/-- What follows a character. -/
def after? (c : Char) : List Char → Option (List Char)
  | d :: cs => if d = c then some cs else none
  | [] => none

/-- The parts of a moment as they are written. -/
structure MomentText where
  year : List Char
  month : List Char
  day : List Char
  time : Option (List Char × List Char × List Char × List Char) := none
  /-- Nothing, `Z`, or a sign with hours and minutes. -/
  zone : Option (Option (Char × List Char × List Char)) := none
deriving Repr

/-- A sign with hours and, after a colon, minutes. -/
def offset? (sign : Char) (cs : List Char) : Option (Char × List Char × List Char) := do
  let (hours, cs) ← digits? 1 2 cs
  match cs with
  | [] => some (sign, hours, [])
  | ':' :: cs =>
    let (minutes, cs) ← digits? 2 2 cs
    if cs.isEmpty then some (sign, hours, minutes) else none
  | _ => none

/-- The zone of a moment: nothing, `Z`, or an offset, after spaces and tabs. -/
def zone? (cs : List Char) : Option (Option (Option (Char × List Char × List Char))) :=
  if cs.isEmpty then some none
  else match cs.dropWhile fun c => c == ' ' || c == '\t' with
    | ['Z'] => some (some none)
    | '+' :: cs => (offset? '+' cs).map fun o => some (some o)
    | '-' :: cs => (offset? '-' cs).map fun o => some (some o)
    | _ => none

/-- The time of a moment with its zone, after the day. -/
def timeOf (m : MomentText) (cs : List Char) : Option MomentText := do
  let cs ← match cs with
    | 'T' :: cs | 't' :: cs => some cs
    | c :: cs =>
      if c == ' ' || c == '\t' then some (cs.dropWhile fun c => c == ' ' || c == '\t') else none
    | [] => none
  let (hour, cs) ← digits? 1 2 cs
  let (minute, cs) ← digits? 2 2 (← after? ':' cs)
  let (second, cs) ← digits? 2 2 (← after? ':' cs)
  let (fraction, cs) := match cs with
    | '.' :: cs => (cs.takeWhile Char.isDigit, cs.dropWhile Char.isDigit)
    | cs => ([], cs)
  return { m with time := some (hour, minute, second, fraction), zone := ← zone? cs }

/-- The parts of a moment: a day, or a day with a time. A day alone has two digits for the month and
for the day if `strict`. -/
def moment? (strict : Bool) (cs : List Char) : Option MomentText := do
  let (year, cs) ← digits? 4 4 cs
  let (month, cs) ← digits? 1 2 (← after? '-' cs)
  let (day, cs) ← digits? 1 2 (← after? '-' cs)
  let m : MomentText := { year, month, day }
  if cs.isEmpty then
    if strict && (month.length < 2 || day.length < 2) then none else some m
  else timeOf m cs

/-! ### The tag of a text -/

/-- A text without the line feed that may stand at its end. -/
def withoutFeed (cs : List Char) : List Char :=
  if 1 < cs.length && cs.getLast? == some '\n' then cs.dropLast else cs

/-- **The tag of a plain scalar.** A line feed at the end does not count. -/
def ofPlain (text : String) : Tag :=
  let cs := withoutFeed text.toList
  let s := String.ofList cs
  if nullWords.contains s then .null
  else if boolWords.contains s then .bool
  else if isRealForm cs then .real
  else if isIntForm cs then .int
  else if s == "<<" then .merge
  else if s == "=" then .default
  else if loneMarks.contains s then .unknown
  else if (moment? true cs).isSome then .moment
  else .text

end Tag

end PairChat.Yaml
