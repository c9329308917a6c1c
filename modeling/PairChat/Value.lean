import PairChat.Decimal

/-!
# Values: what a document holds

JSON and YAML documents are read into one type.  A `Scalar` is a value without parts; only scalars
are keys.  A `Value` is a scalar, a list, a pair or longer tuple, a mapping whose entries keep their
order, or a set of keys.  A document may refer to one of its parts from several places, and even
from inside that part: such a part carries a mark, and inside it the mark alone stands for the part
again.

* keys: `Scalar.sameKey` says which keys are one and the same (the numbers 1 and 1.0 and the truth
  value are), `putEntry` replaces the value of such a key in place or adds the entry at the end;
* parts: `Value.core` is a value without its mark, in which the mark inside is replaced by the
  value;
* equality: `Value.same` is equality up to the form of numbers and the order of entries;
* emptiness: `Value.isEmpty` holds of the values that count as missing.
-/

namespace PairChat

/-- A day of the calendar. -/
structure Day where
  year : Nat
  month : Nat
  day : Nat
deriving DecidableEq, Repr, Inhabited

/-- The number of a day, counted from some day on. The months from March on have 153 days in every
five. -/
def Day.number (d : Day) : Nat :=
  let year := if d.month ≤ 2 then d.year - 1 else d.year
  let month := if d.month ≤ 2 then d.month + 9 else d.month - 3
  365 * year + year / 4 - year / 100 + year / 400 + (153 * month + 2) / 5 + d.day

/-- A time of day, to the microsecond. -/
structure Clock where
  hour : Nat
  minute : Nat
  second : Nat
  micro : Nat
deriving DecidableEq, Repr, Inhabited

/-- A value without parts. A moment may carry its distance from universal time in seconds. -/
inductive Scalar where
  | null
  | bool (b : Bool)
  | int (n : Int)
  | real (x : Real)
  | text (s : String)
  | date (day : Day)
  | moment (day : Day) (time : Clock) (offset : Option Int)
  | bytes (bs : List UInt8)
deriving DecidableEq, Repr, Inhabited

/-- What a document holds. A part that is referred to more than once is shared; it is a loop if it
is referred to from inside. Texts and numbers are never shared. -/
inductive Value where
  | scalar (s : Scalar)
  | list (items : List Value)
  | tuple (items : List Value)
  | map (entries : List (Scalar × Value))
  | set (members : List Scalar)
  | shared (mark : Nat) (isLoop : Bool) (content : Value)
  | again (mark : Nat)
deriving Repr, Inhabited

namespace Value

@[match_pattern] abbrev null : Value := .scalar .null
@[match_pattern] abbrev bool (b : Bool) : Value := .scalar (.bool b)
@[match_pattern] abbrev int (n : Int) : Value := .scalar (.int n)
@[match_pattern] abbrev real (x : Real) : Value := .scalar (.real x)
@[match_pattern] abbrev text (s : String) : Value := .scalar (.text s)

/-- A mapping whose keys are texts. -/
def object (entries : List (String × Value)) : Value :=
  .map (entries.map fun (k, v) => (.text k, v))

/-! ### Decidable equality -/

mutual

/-- Are the two values equal? -/
def equal : Value → Value → Bool
  | .scalar s, .scalar t => s == t
  | .list xs, .list ys => equalItems xs ys
  | .tuple xs, .tuple ys => equalItems xs ys
  | .map xs, .map ys => equalEntries xs ys
  | .set xs, .set ys => xs == ys
  | .shared m l v, .shared n k w => m == n && l == k && v.equal w
  | .again m, .again n => m == n
  | _, _ => false

/-- Are the items equal one by one? -/
def equalItems : List Value → List Value → Bool
  | [], [] => true
  | x :: xs, y :: ys => x.equal y && equalItems xs ys
  | _, _ => false

/-- Are the entries equal one by one? -/
def equalEntries : List (Scalar × Value) → List (Scalar × Value) → Bool
  | [], [] => true
  | (k, x) :: xs, (l, y) :: ys => k == l && x.equal y && equalEntries xs ys
  | _, _ => false

end

mutual

theorem equal_iff : (a b : Value) → (a.equal b = true ↔ a = b)
  | .scalar _, b => by cases b <;> simp [equal]
  | .list xs, b => by cases b <;> simp [equal, equalItems_iff xs]
  | .tuple xs, b => by cases b <;> simp [equal, equalItems_iff xs]
  | .map xs, b => by cases b <;> simp [equal, equalEntries_iff xs]
  | .set _, b => by cases b <;> simp [equal]
  | .shared _ _ v, b => by cases b <;> simp [equal, equal_iff v, and_assoc]
  | .again _, b => by cases b <;> simp [equal]

theorem equalItems_iff : (a b : List Value) → (equalItems a b = true ↔ a = b)
  | [], b => by cases b <;> simp [equalItems]
  | x :: xs, b => by cases b <;> simp [equalItems, equal_iff x, equalItems_iff xs]

theorem equalEntries_iff : (a b : List (Scalar × Value)) → (equalEntries a b = true ↔ a = b)
  | [], b => by cases b <;> simp [equalEntries]
  | (k, x) :: xs, b => by
    cases b <;> simp [equalEntries, equal_iff x, equalEntries_iff xs, Prod.ext_iff]

end

instance : DecidableEq Value := fun a b => decidable_of_iff (a.equal b = true) (equal_iff a b)

end Value

/-! ### Keys -/

namespace Scalar

/-- The integer that a scalar is as a number: integers, truth values and other numbers that are
whole. -/
def toInt? : Scalar → Option Int
  | .int n => some n
  | .bool b => some (if b then 1 else 0)
  | .real (.finite d) => d.toInt?
  | _ => none

/-- The instant of a moment with a distance from universal time, in microseconds from some instant
on. -/
def instant? : Scalar → Option Int
  | .moment day time (some offset) =>
    let seconds : Int :=
      day.number * 86400 + time.hour * 3600 + time.minute * 60 + time.second - offset
    some (seconds * 1000000 + time.micro)
  | _ => none

/-- Are the two scalars equal? Numbers are compared as numbers, and moments as instants. What is no
number equals nothing. -/
def same (a b : Scalar) : Bool :=
  if a = b then a != .real .undefined
  else match a.toInt?, b.toInt?, a.instant?, b.instant? with
    | some m, some n, _, _ => m == n
    | _, _, some m, some n => m == n
    | _, _, _, _ => false

/-- Are the two scalars the same as keys? What is no number is one key. -/
def sameKey (a b : Scalar) : Bool := a == b || a.same b

theorem same_text (a b : String) : (text a).same (.text b) = decide (a = b) := by
  by_cases h : a = b <;> simp [same, toInt?, instant?, h]

theorem sameKey_text (a b : String) : (text a).sameKey (.text b) = decide (a = b) := by
  by_cases h : a = b <;> simp [sameKey, same_text, h]

/-- Does the scalar count as missing? -/
def isEmpty : Scalar → Bool
  | .null => true
  | .bool b => !b
  | .int n => n == 0
  | .real x => x.isZero
  | .text s => s.isEmpty
  | .bytes bs => bs.isEmpty
  | .date _ | .moment .. => false

end Scalar

/-- The entries after `key` was given `value`: in the place of the key that is the same, else at the
end. -/
def putEntry {α : Type} (key : Scalar) (value : α) : List (Scalar × α) → List (Scalar × α)
  | [] => [(key, value)]
  | (k, v) :: es => if k.sameKey key then (k, value) :: es else (k, v) :: putEntry key value es

/-- The entries with every key once: a key stands where it first stood, with its last value. -/
def distinctEntries {α : Type} (entries : List (Scalar × α)) : List (Scalar × α) :=
  entries.foldl (fun es (k, v) => putEntry k v es) []

/-- The value of a key. -/
def findEntry? {α : Type} (key : Scalar) (entries : List (Scalar × α)) : Option α :=
  (entries.find? fun e => e.1.sameKey key).map (·.2)

/-- The entries without a key. -/
def eraseEntry {α : Type} (key : Scalar) (entries : List (Scalar × α)) : List (Scalar × α) :=
  entries.filter fun e => !e.1.sameKey key

namespace Value

/-! ### Parts -/

mutual

/-- The value with another one in the place of a mark. -/
def putShared (mark : Nat) (w : Value) : Value → Value
  | .list items => .list (putSharedItems mark w items)
  | .tuple items => .tuple (putSharedItems mark w items)
  | .map entries => .map (putSharedEntries mark w entries)
  | .shared m l v => if m = mark then .shared m l v else .shared m l (putShared mark w v)
  | .again m => if m = mark then w else .again m
  | v => v

/-- The items with a value in the place of a mark. -/
def putSharedItems (mark : Nat) (w : Value) : List Value → List Value
  | [] => []
  | v :: vs => putShared mark w v :: putSharedItems mark w vs

/-- The entries with a value in the place of a mark. -/
def putSharedEntries (mark : Nat) (w : Value) : List (Scalar × Value) → List (Scalar × Value)
  | [] => []
  | (k, v) :: es => (k, putShared mark w v) :: putSharedEntries mark w es

end

/-- **The value without its mark.** Where it refers to itself it stands again. -/
def core : Value → Value
  | .shared m true v => putShared m (.shared m true v) v
  | .shared _ false v => v
  | v => v

/-- The mark of a value. -/
def mark? : Value → Option Nat
  | .shared m _ _ => some m
  | .again m => some m
  | _ => none

/-- The value behind a mark, as it is. -/
def content : Value → Value
  | .shared _ _ v => v
  | v => v

/-- Does the value count as missing? -/
def isEmpty : Value → Bool
  | .scalar s => s.isEmpty
  | .list items => items.isEmpty
  | .tuple items => items.isEmpty
  | .map entries => entries.isEmpty
  | .set members => members.isEmpty
  | .shared _ _ v => v.isEmpty
  | .again _ => false

/-- A text, or `null` for none. -/
def ofText? : Option String → Value
  | some s => .text s
  | none => .null

/-- The text that a value is. -/
def text? : Value → Option String
  | .text s => some s
  | _ => none

@[simp] theorem text?_text (s : String) : (text s).text? = some s := rfl

@[simp] theorem text?_ofText? (s : Option String) : (ofText? s).text? = s := by cases s <;> rfl

/-- The value of a text key of a mapping. -/
def get? (key : String) (v : Value) : Option Value :=
  match v.core with
  | .map entries => entries.lookup (.text key)
  | _ => none

@[simp] theorem get?_object_nil (key : String) : (object []).get? key = none := rfl

@[simp] theorem get?_object_cons (key k : String) (v : Value) (entries : List (String × Value)) :
    (object ((k, v) :: entries)).get? key =
      if key = k then some v else (object entries).get? key := by
  by_cases h : key = k
  · simp [object, get?, core, h]
  · have h' : (Scalar.text key == Scalar.text k) = false := by simp [h]
    simp [object, get?, core, List.lookup_cons, h, h']

/-! ### Equality -/

/-- Is the value no number? As a part of a value it is the same as itself. -/
def isUndefined : Value → Bool
  | .real .undefined => true
  | _ => false

mutual

/-- Are the two values equal, up to the form of numbers and the order of entries? A part that is
shared is equal to itself. -/
def same : Value → Value → Bool
  | .shared m _ v, w => w.mark? == some m || v.same w.content
  | .again m, w => w.mark? == some m
  | .scalar s, w => match w.content with
    | .scalar t => s.same t
    | _ => false
  | .list xs, w => match w.content with
    | .list ys => sameItems xs ys
    | _ => false
  | .tuple xs, w => match w.content with
    | .tuple ys => sameItems xs ys
    | _ => false
  | .map xs, w => match w.content with
    | .map ys => xs.length == ys.length && sameEntries xs ys
    | _ => false
  | .set xs, w => match w.content with
    | .set ys => xs.length == ys.length && xs.all fun x => ys.any (·.sameKey x)
    | _ => false

/-- Are the items equal one by one? -/
def sameItems : List Value → List Value → Bool
  | [], [] => true
  | x :: xs, y :: ys => ((x.isUndefined && y.isUndefined) || x.same y) && sameItems xs ys
  | _, _ => false

/-- Has every entry of the first list a counterpart in the second? -/
def sameEntries : List (Scalar × Value) → List (Scalar × Value) → Bool
  | [], _ => true
  | (k, v) :: es, fs =>
    (match findEntry? k fs with
      | some w => (v.isUndefined && w.isUndefined) || v.same w
      | none => false) && sameEntries es fs

end

end Value

end PairChat
