import PairChat.Failure
import PairChat.Membership

/-!
# Tables: the rows of a local store

Four tables: users, rooms, member records, and documents of users by type.  Rows stand in the order
in which they were made.  A row is inserted only if its texts can be encoded (`bound`), only under a
new key and only if the rows it refers to exist, which is what `Tables.Valid` says of all rows
together.

The records of a room are read in the order of their last change; records of the same instant come
in the order of their users.
-/

namespace PairChat.Store

/-- A registered account. A row without an identifier is found under none. -/
structure UserRow where
  id : Option String
  displayName : Option String
  createdAt : Nat
deriving DecidableEq, Repr

/-- A room. -/
structure RoomRow where
  id : String
  creator : String
  isDirect : Bool
  createdAt : Nat
deriving DecidableEq, Repr

/-- The record of a user in a room. The membership is the word on the wire. -/
structure MemberRow where
  roomId : String
  userId : String
  membership : String
  displayName : Option String
  isDirect : Option Bool
  updatedAt : Nat
deriving DecidableEq, Repr

/-- A document of a user. -/
structure DocumentRow where
  userId : String
  type : String
  content : Value
deriving DecidableEq, Repr

/-! ### Binding texts -/

/-- Texts are bound to a statement one after the other. The first one that cannot be encoded is in
the way. -/
def bound (texts : List String) : Except Failure Unit :=
  match texts.find? fun text => !Text.isEncodable text with
  | some text => .error (.unencodable text)
  | none => .ok ()

theorem bound_eq_ok_iff {texts : List String} :
    bound texts = .ok () ↔ ∀ text ∈ texts, Text.isEncodable text := by
  unfold bound
  rcases h : texts.find? fun text => !Text.isEncodable text with _ | text
  · simpa using h
  · have hmem := List.mem_of_find?_eq_some h
    have hno : Text.isEncodable text = false := by simpa using List.find?_some h
    refine iff_of_false (by simp) fun hall => ?_
    rw [hall text hmem] at hno
    cases hno

theorem bound_nil : bound [] = .ok () := rfl

theorem bound_singleton {text : String} (h : Text.isEncodable text) : bound [text] = .ok () :=
  bound_eq_ok_iff.mpr fun _ hx => List.mem_singleton.mp hx ▸ h

theorem bound_append (texts texts' : List String) :
    bound (texts ++ texts') = bound texts >>= fun _ => bound texts' := by
  unfold bound
  rw [List.find?_append]
  rcases texts.find? fun text => !Text.isEncodable text with _ | text <;> rfl

theorem bound_bind {α : Type} {texts : List String} (h : bound texts = .ok ())
    (x : Except Failure α) : (bound texts >>= fun _ => x) = x := by
  rw [h]
  rfl

/-- The first text that cannot be encoded is named. -/
theorem bound_eq_error (before after : List String) {text : String}
    (hbefore : ∀ x ∈ before, Text.isEncodable x) (htext : Text.isEncodable text = false) :
    bound (before ++ text :: after) = .error (.unencodable text) := by
  have hnone : before.find? (fun x => !Text.isEncodable x) = none := by
    simpa using hbefore
  rw [bound, List.find?_append, hnone, Option.none_or, List.find?_cons, htext]
  rfl

/-- Texts are refused for one that cannot be encoded. -/
theorem exists_of_bound_eq_error {texts : List String} {e : Failure} (h : bound texts = .error e) :
    ∃ text, e = .unencodable text := by
  unfold bound at h
  split at h
  · cases h
    exact ⟨_, rfl⟩
  · cases h

/-- The texts that the row is written with. -/
def UserRow.texts (row : UserRow) : List String := row.id.toList ++ row.displayName.toList

@[inherit_doc UserRow.texts]
def RoomRow.texts (row : RoomRow) : List String := [row.id, row.creator]

@[inherit_doc UserRow.texts]
def MemberRow.texts (row : MemberRow) : List String :=
  [row.roomId, row.userId, row.membership] ++ row.displayName.toList

/-- The texts that the row is written with. Its content is written in ASCII. -/
def DocumentRow.texts (row : DocumentRow) : List String := [row.userId, row.type]

/-- The rows of a store. -/
structure Tables where
  users : List UserRow := []
  rooms : List RoomRow := []
  members : List MemberRow := []
  documents : List DocumentRow := []
deriving DecidableEq, Repr

namespace Tables

variable (t : Tables)

/-! ### Reading -/

/-- The row of a user. -/
def user? (id : String) : Option UserRow := t.users.find? (·.id == some id)

/-- The row of a room. -/
def room? (id : String) : Option RoomRow := t.rooms.find? (·.id == id)

/-- Is the record that of the user in the room? -/
def isRecordOf (room user : String) (r : MemberRow) : Bool := r.roomId == room && r.userId == user

/-- The record of a user in a room. -/
def member? (room user : String) : Option MemberRow := t.members.find? (isRecordOf room user)

/-- Does the first record stand before the second, or in the same place? -/
def isBefore (a b : MemberRow) : Bool :=
  a.updatedAt < b.updatedAt || (a.updatedAt == b.updatedAt && decide (a.userId ≤ b.userId))

/-- The records of a room, by the time of their last change. -/
def membersOf (room : String) : List MemberRow :=
  (t.members.filter (·.roomId == room)).mergeSort isBefore

/-- The rooms in which a user has a record, each with the membership of the user. -/
def roomsOf (user : String) : List (RoomRow × String) :=
  t.rooms.filterMap fun room => (t.member? room.id user).map fun r => (room, r.membership)

/-- A document as it is read. One that is a bare number was kept as a number: zero counts as no
content, and any other number cannot be read. -/
def readable : Value → Except Failure Value
  | .scalar (.int n) => if n = 0 then .ok (.map []) else .error (.shape .type)
  | .scalar (.real (.finite d)) => if d.digits = 0 then .ok (.map []) else .error (.shape .type)
  | v => .ok v

/-- The document of a user of some type, `null` if there is none. -/
def document (user type : String) : Except Failure Value :=
  match t.documents.find? fun d => d.userId == user && d.type == type with
  | some d => readable d.content
  | none => .ok .null

/-! ### Writing -/

/-- The tables with a user more. -/
def insertUser (row : UserRow) : Except Failure Tables := do
  bound row.texts
  if row.id.any fun id => (t.user? id).isSome then .error .constraint
  else .ok { t with users := t.users ++ [row] }

/-- The tables with a room more. -/
def insertRoom (row : RoomRow) : Except Failure Tables := do
  bound row.texts
  if (t.room? row.id).isSome || (t.user? row.creator).isNone then .error .constraint
  else .ok { t with rooms := t.rooms ++ [row] }

/-- The tables with a member record more. -/
def insertMember (row : MemberRow) : Except Failure Tables := do
  bound row.texts
  if (t.member? row.roomId row.userId).isSome || (t.room? row.roomId).isNone
    || (t.user? row.userId).isNone then .error .constraint
  else .ok { t with members := t.members ++ [row] }

/-- The tables with a member record put in the place of the one that the user has in the room, or
added. -/
def putMember (row : MemberRow) : Except Failure Tables := do
  bound row.texts
  if (t.member? row.roomId row.userId).isSome then
    .ok { t with members := t.members.map fun r =>
      if isRecordOf row.roomId row.userId r then row else r }
  else t.insertMember row

/-- The tables with a document put in the place of the one of its user and type, or added. -/
def putDocument (row : DocumentRow) : Except Failure Tables := do
  bound row.texts
  if (t.user? row.userId).isNone then .error .constraint
  else if t.documents.any fun d => d.userId == row.userId && d.type == row.type then
    .ok { t with documents := t.documents.map fun d =>
      if d.userId == row.userId && d.type == row.type then row else d }
  else .ok { t with documents := t.documents ++ [row] }

/-! ### Keys and references -/

/-- Every key stands once, every row that is referred to exists, and the texts of users and rooms
can be encoded. -/
structure Valid : Prop where
  users_nodup : (t.users.filterMap (·.id)).Nodup
  rooms_nodup : (t.rooms.map (·.id)).Nodup
  members_nodup : (t.members.map fun r => (r.roomId, r.userId)).Nodup
  documents_nodup : (t.documents.map fun d => (d.userId, d.type)).Nodup
  creator_mem : ∀ r ∈ t.rooms, r.creator ∈ t.users.filterMap (·.id)
  member_room_mem : ∀ r ∈ t.members, r.roomId ∈ t.rooms.map (·.id)
  member_user_mem : ∀ r ∈ t.members, r.userId ∈ t.users.filterMap (·.id)
  document_user_mem : ∀ d ∈ t.documents, d.userId ∈ t.users.filterMap (·.id)
  users_bound : ∀ u ∈ t.users, bound u.texts = .ok ()
  rooms_bound : ∀ r ∈ t.rooms, bound r.texts = .ok ()

theorem valid_empty : Valid {} := by constructor <;> simp

end Tables

end PairChat.Store
