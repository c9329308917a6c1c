import PairChat.Store.Tables

/-!
# Stores as documents

The tables of a store can be kept as one document: a mapping from the name of each table to its
rows, where a row is a mapping from columns to values.  `Tables.ofValue?` reads what
`Tables.toValue` writes (`ofValue?_toValue`).
-/

namespace PairChat

namespace Value

/-- The natural number that a value is. -/
def nat? : Value → Option Nat
  | .scalar (.int n) => n.toNat?
  | _ => none

/-- The truth value that a value is. -/
def bool? : Value → Option Bool
  | .scalar (.bool b) => some b
  | _ => none

/-- A truth value, or `null` for none. -/
def ofBool? : Option Bool → Value
  | some b => .bool b
  | none => .null

/-- The items of a list. -/
def items? : Value → Option (List Value)
  | .list items => some items
  | _ => none

@[simp] theorem nat?_int (n : Nat) : (int n).nat? = some n := rfl

@[simp] theorem bool?_bool (b : Bool) : (bool b).bool? = some b := rfl

@[simp] theorem bool?_ofBool? (b : Option Bool) : (ofBool? b).bool? = b := by cases b <;> rfl

end Value

namespace Store

/-! ### Rows -/

/-- A user as a row of a document. -/
def UserRow.toValue (r : UserRow) : Value := .object [
  ("id", .ofText? r.id), ("display_name", .ofText? r.displayName), ("created_at", .int r.createdAt)]

/-- The user that a row is. -/
def UserRow.ofValue? (v : Value) : Option UserRow := do
  return {
    id := (← v.get? "id").text?
    displayName := (← v.get? "display_name").text?
    createdAt := ← (← v.get? "created_at").nat? }

/-- A room as a row of a document. -/
def RoomRow.toValue (r : RoomRow) : Value := .object [
  ("id", .text r.id), ("creator", .text r.creator), ("is_direct", .bool r.isDirect),
  ("created_at", .int r.createdAt)]

/-- The room that a row is. -/
def RoomRow.ofValue? (v : Value) : Option RoomRow := do
  return {
    id := ← (← v.get? "id").text?
    creator := ← (← v.get? "creator").text?
    isDirect := ← (← v.get? "is_direct").bool?
    createdAt := ← (← v.get? "created_at").nat? }

/-- A member record as a row of a document. -/
def MemberRow.toValue (r : MemberRow) : Value := .object [
  ("room_id", .text r.roomId), ("user_id", .text r.userId), ("membership", .text r.membership),
  ("display_name", .ofText? r.displayName), ("is_direct", .ofBool? r.isDirect),
  ("updated_at", .int r.updatedAt)]

/-- The member record that a row is. -/
def MemberRow.ofValue? (v : Value) : Option MemberRow := do
  return {
    roomId := ← (← v.get? "room_id").text?
    userId := ← (← v.get? "user_id").text?
    membership := ← (← v.get? "membership").text?
    displayName := (← v.get? "display_name").text?
    isDirect := (← v.get? "is_direct").bool?
    updatedAt := ← (← v.get? "updated_at").nat? }

/-- A document of a user as a row. -/
def DocumentRow.toValue (r : DocumentRow) : Value := .object [
  ("user_id", .text r.userId), ("type", .text r.type), ("content", r.content)]

/-- The document of a user that a row is. -/
def DocumentRow.ofValue? (v : Value) : Option DocumentRow := do
  return {
    userId := ← (← v.get? "user_id").text?
    type := ← (← v.get? "type").text?
    content := ← v.get? "content" }

@[simp] theorem UserRow.ofValue?_toValue (r : UserRow) : ofValue? r.toValue = some r := by
  simp [ofValue?, toValue]

@[simp] theorem RoomRow.ofValue?_toValue (r : RoomRow) : ofValue? r.toValue = some r := by
  simp [ofValue?, toValue]

@[simp] theorem MemberRow.ofValue?_toValue (r : MemberRow) : ofValue? r.toValue = some r := by
  simp [ofValue?, toValue]

@[simp] theorem DocumentRow.ofValue?_toValue (r : DocumentRow) : ofValue? r.toValue = some r := by
  simp [ofValue?, toValue]

/-! ### Tables -/

/-- The rows under a name. -/
def rowsOf? {α : Type} (row? : Value → Option α) (name : String) (v : Value) : Option (List α) := do
  (← (← v.get? name).items?).mapM row?

/-- Rows that are read back one by one are read back together. -/
theorem mapM_map_eq_some {α : Type} {toValue : α → Value} {row? : Value → Option α}
    (h : ∀ r, row? (toValue r) = some r) (rows : List α) :
    (rows.map toValue).mapM row? = some rows := by
  induction rows with
  | nil => rfl
  | cons r rows ih => simp [h, ih]

namespace Tables

/-- The tables as a document. -/
def toValue (t : Tables) : Value := .object [
  ("users", .list (t.users.map UserRow.toValue)),
  ("rooms", .list (t.rooms.map RoomRow.toValue)),
  ("members", .list (t.members.map MemberRow.toValue)),
  ("documents", .list (t.documents.map DocumentRow.toValue))]

/-- The tables that a document holds. -/
def ofValue? (v : Value) : Option Tables := do
  return {
    users := ← rowsOf? UserRow.ofValue? "users" v
    rooms := ← rowsOf? RoomRow.ofValue? "rooms" v
    members := ← rowsOf? MemberRow.ofValue? "members" v
    documents := ← rowsOf? DocumentRow.ofValue? "documents" v }

/-- **The tables are read back as they were.** -/
theorem ofValue?_toValue (t : Tables) : ofValue? t.toValue = some t := by
  simp [ofValue?, toValue, rowsOf?, Value.items?,
    mapM_map_eq_some UserRow.ofValue?_toValue, mapM_map_eq_some RoomRow.ofValue?_toValue,
    mapM_map_eq_some MemberRow.ofValue?_toValue, mapM_map_eq_some DocumentRow.ofValue?_toValue]

/-- The last instant at which a row was made or changed. -/
def lastInstant (t : Tables) : Nat :=
  let times := t.users.map (·.createdAt) ++ t.rooms.map (·.createdAt) ++ t.members.map (·.updatedAt)
  times.foldl max 0

end Tables

end Store

end PairChat
