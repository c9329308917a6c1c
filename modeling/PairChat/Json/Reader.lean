import PairChat.Failure

/-!
# Reading JSON

`Json.read` reads one JSON document.  Mappings keep the order of their entries, and a key that is
written twice stands where it stood first with the value it was given last.  Besides the numbers of
the format the words `NaN`, `Infinity` and `-Infinity` are read.  A half of a character may stand
alone.

A document can be read in part and then fail: by its form, by an integer with too many digits, or
because its lists and mappings are nested too deep.  Every step of the reader returns the rest of
its input.  A value takes two steps for a bracket and one for each item, so twice the length of the
input is fuel enough.
-/

namespace PairChat.Json

/-- The white space between the parts of a document. -/
def isSpace (c : Char) : Bool := c == ' ' || c == '\n' || c == '\r' || c == '\t'

/-- The input after white space. -/
def skipSpace (cs : List Char) : List Char := cs.dropWhile isSpace

/-- The value of a hexadecimal digit. -/
def hexValue? (c : Char) : Option Nat :=
  if '0' ≤ c ∧ c ≤ '9' then some (c.toNat - '0'.toNat)
  else if 'a' ≤ c ∧ c ≤ 'f' then some (c.toNat - 'a'.toNat + 10)
  else if 'A' ≤ c ∧ c ≤ 'F' then some (c.toNat - 'A'.toNat + 10)
  else none

/-- The number that four hexadecimal digits write, and the rest of the input. -/
def readUnit? : List Char → Option (Nat × List Char)
  | a :: b :: c :: d :: rest => do
    let a ← hexValue? a
    let b ← hexValue? b
    let c ← hexValue? c
    let d ← hexValue? d
    some (((a * 16 + b) * 16 + c) * 16 + d, rest)
  | _ => none

/-- The character of a one-letter escape. -/
def shortEscape? : Char → Option Char
  | '"' => some '"'
  | '\\' => some '\\'
  | '/' => some '/'
  | 'b' => some (Char.ofNat 8)
  | 'f' => some (Char.ofNat 12)
  | 'n' => some '\n'
  | 'r' => some '\r'
  | 't' => some '\t'
  | _ => none

/-- The characters up to the closing quote, behind those already read (last first), and the rest. -/
def readChars (fuel : Nat) (read : List Char) (cs : List Char) : Option (List Char × List Char) :=
  match fuel with
  | 0 => none
  | fuel + 1 =>
    match cs with
    | [] => none
    | '"' :: rest => some (read.reverse, rest)
    | '\\' :: 'u' :: rest =>
      match readUnit? rest with
      | none => none
      | some (high, rest) =>
        match Text.isHighUnit high, rest with
        | true, '\\' :: 'u' :: rest' =>
          match readUnit? rest' with
          | none => none
          | some (low, rest'') =>
            if Text.isLowUnit low then readChars fuel (Text.joinUnits high low :: read) rest''
            else readChars fuel ((Text.ofUnit high).reverse ++ read) rest
        | _, _ => readChars fuel ((Text.ofUnit high).reverse ++ read) rest
    | '\\' :: c :: rest =>
      match shortEscape? c with
      | some c => readChars fuel (c :: read) rest
      | none => none
    | '\\' :: [] => none
    | c :: rest => if c.toNat < 0x20 then none else readChars fuel (c :: read) rest

/-- The text after an opening quote, and the rest. -/
def readText? (cs : List Char) : Option (String × List Char) :=
  (readChars (cs.length + 1) [] cs).map fun (t, rest) => (String.ofList t, rest)

/-- The natural number that digits write. -/
def digitsValue (cs : List Char) : Nat := cs.foldl (fun n c => n * 10 + (c.toNat - '0'.toNat)) 0

/-- The digits at the start of the input, and the rest. -/
def spanDigits (cs : List Char) : List Char × List Char :=
  (cs.takeWhile Char.isDigit, cs.dropWhile Char.isDigit)

/-- The digits of a fraction, if the input starts with one. -/
def readFraction (cs : List Char) : List Char × List Char :=
  match cs with
  | '.' :: rest =>
    let (ds, rest') := spanDigits rest
    if ds.isEmpty then ([], cs) else (ds, rest')
  | _ => ([], cs)

/-- The exponent of a number, if the input starts with one. -/
def readExponent (cs : List Char) : Option Int × List Char :=
  match cs with
  | e :: rest =>
    if e = 'e' ∨ e = 'E' then
      let (negative, rest) := match rest with
        | '-' :: r => (true, r)
        | '+' :: r => (false, r)
        | r => (false, r)
      let (ds, rest') := spanDigits rest
      if ds.isEmpty then (none, cs)
      else (some (if negative then -(digitsValue ds : Int) else digitsValue ds), rest')
    else (none, cs)
  | [] => (none, cs)

/-- The number without sign at the start of the input, and the rest: an integer without fraction and
exponent, else a decimal. A zero ends the integer part. -/
def readNumber (negative : Bool) (cs : List Char) : Except Failure (Value × List Char) :=
  let (whole, rest) := match cs with
    | '0' :: rest => (['0'], rest)
    | cs => spanDigits cs
  if whole.isEmpty then .error .badJson
  else
    let (fraction, rest) := readFraction rest
    let (exponent, rest) := readExponent rest
    match fraction, exponent with
    | [], none =>
      if Value.longestInteger < whole.length then .error (.shape .value)
      else
        let n : Int := digitsValue whole
        .ok (.int (if negative then -n else n), rest)
    | _, _ =>
      let e := exponent.getD 0 - fraction.length
      .ok (.real (Decimal.nearest negative (digitsValue (whole ++ fraction)) e), rest)

/-- The rest of the input after a word, if it starts with it. -/
def dropWord? : List Char → List Char → Option (List Char)
  | [], cs => some cs
  | w :: ws, c :: cs => if w = c then dropWord? ws cs else none
  | _ :: _, [] => none

/-- The words of the format and their values. -/
def words : List (String × Value) :=
  [("null", .null), ("true", .bool true), ("false", .bool false), ("NaN", .real .undefined),
    ("Infinity", .real (.infinite false)), ("-Infinity", .real (.infinite true))]

/-- The value of the word at the start of the input, and the rest. -/
def readWord? (cs : List Char) : Option (Value × List Char) :=
  words.findSome? fun (w, v) => (dropWord? w.toList cs).map fun rest => (v, rest)

/-- The value of the scalar at the start of the input, and the rest. -/
def readScalar (cs : List Char) : Except Failure (Value × List Char) :=
  match cs with
  | '"' :: rest => match readText? rest with
    | some (t, rest) => .ok (.text t, rest)
    | none => .error .badJson
  | _ =>
    match readWord? cs with
    | some r => .ok r
    | none => match cs with
      | '-' :: rest => readNumber true rest
      | _ => readNumber false cs

/-- How deep lists and mappings may be nested: of a stack of 1000 frames, what the callers of a
reader leave to it. A reader that is called from further down has less. -/
def deepest : Nat := 980

mutual

/-- The value at the start of the input with lists and mappings of some depth, and the rest. -/
def readValue (depth fuel : Nat) (cs : List Char) : Except Failure (Value × List Char) :=
  match fuel with
  | 0 => .error .badJson
  | fuel + 1 =>
    match cs with
    | '[' :: rest =>
      if depth = 0 then .error (.shape .depth)
      else match skipSpace rest with
        | ']' :: rest => .ok (.list [], rest)
        | rest => readItems (depth - 1) fuel [] rest
    | '\x7b' :: rest =>
      if depth = 0 then .error (.shape .depth)
      else match skipSpace rest with
        | '\x7d' :: rest => .ok (.map [], rest)
        | rest => readEntries (depth - 1) fuel [] rest
    | _ => readScalar cs

/-- The items up to the closing bracket, behind those already read (last first), and the rest. -/
def readItems (depth fuel : Nat) (read : List Value) (cs : List Char) :
    Except Failure (Value × List Char) :=
  match fuel with
  | 0 => .error .badJson
  | fuel + 1 =>
    match readValue depth fuel cs with
    | .error e => .error e
    | .ok (v, rest) =>
      match skipSpace rest with
      | ',' :: rest => readItems depth fuel (v :: read) (skipSpace rest)
      | ']' :: rest => .ok (.list (v :: read).reverse, rest)
      | _ => .error .badJson

/-- The entries up to the closing brace, behind those already read, and the rest. -/
def readEntries (depth fuel : Nat) (read : List (Scalar × Value)) (cs : List Char) :
    Except Failure (Value × List Char) :=
  match fuel with
  | 0 => .error .badJson
  | fuel + 1 =>
    match cs with
    | '"' :: rest =>
      match readText? rest with
      | none => .error .badJson
      | some (key, rest) =>
        match skipSpace rest with
        | ':' :: rest =>
          match readValue depth fuel (skipSpace rest) with
          | .error e => .error e
          | .ok (v, rest) =>
            let read := putEntry (.text key) v read
            match skipSpace rest with
            | ',' :: rest => readEntries depth fuel read (skipSpace rest)
            | '\x7d' :: rest => .ok (.map read, rest)
            | _ => .error .badJson
        | _ => .error .badJson
    | _ => .error .badJson

end

/-- **The value that a text writes.** -/
def read (s : String) : Except Failure Value :=
  let cs := skipSpace s.toList
  match readValue deepest (2 * cs.length + 2) cs with
  | .ok (v, rest) => if (skipSpace rest).isEmpty then .ok v else .error .badJson
  | .error e => .error e

/-- The value that a text writes, if it writes one. -/
def read? (s : String) : Option Value := (read s).toOption

end PairChat.Json
