import PairChat.Action
import PairChat.Store.Tables

/-!
# The local store: tables with a commit

A store holds the tables as they were last committed and, if a statement failed half way through an
operation, the rows that were written before it (`pending`).  Reading sees the pending rows
(`Store.live`); the next successful write commits them too; closing the store drops them.

The clock and the number of the next room are part of the state.  A room takes its number once its
members are known, and keeps it even if its rows cannot be inserted.

A statement fails at the first of its texts that cannot be encoded (`bound`), whether it reads by
the text (`lookUp`) or writes it.
-/

namespace PairChat

open Store

/-- The state of a local store. -/
structure Store where
  saved : Tables := {}
  pending : Option Tables := none
  clock : Nat := 0
  nextRoom : Nat := 1
deriving DecidableEq, Repr

namespace Store

open PairChat.Action

/-- The tables as they are read. -/
def live (s : Store) : Tables := s.pending.getD s.saved

/-- The store with these tables committed. -/
def commit (s : Store) (t : Tables) : Store := { s with saved := t, pending := none }

/-- The store with these tables written and not committed. -/
def stage (s : Store) (t : Tables) : Store := { s with pending := some t }

/-- The store after it was closed and opened again. -/
def reopen (s : Store) : Store := { s with pending := none }

/-- The version of the layout of the tables. -/
def schemaVersion : Nat := 1

/-! ### Statements -/

/-- The value of a column that has to have one. -/
def required {α : Type} : Option α → Except Failure α
  | some a => .ok a
  | none => .error .constraint

/-- Read the tables. -/
def query {α : Type} (f : Tables → α) : Action Store α := return f (← getState).live

/-- Read the tables by some texts. -/
def lookUp {α : Type} (texts : List String) (f : Tables → α) : Action Store α := do
  lift (bound texts)
  query f

/-- Write rows without committing them. -/
def insert (f : Tables → Except Failure Tables) : Action Store Unit := do
  let s ← getState
  setState (s.stage (← lift (f s.live)))

/-- Commit what was written. -/
def save : Action Store Unit := do
  let s ← getState
  setState (s.commit s.live)

/-- The next instant of the clock. -/
def now : Action Store Nat := do
  let s ← getState
  setState { s with clock := s.clock + 1 }
  return s.clock

/-- The identifier of the next room on a server. -/
def freshRoom (server : String) : Action Store String := do
  let s ← getState
  setState { s with nextRoom := s.nextRoom + 1 }
  return "!room" ++ toString s.nextRoom ++ ":" ++ server

/-- Bring the layout of the tables up to date, which also commits what was written. -/
def prepare : Action Store Unit := save

/-! ### Users -/

/-- Register a user. One without an identifier can be registered again and again. -/
def createUser (id : Option String) (displayName : Option String) : Action Store UserRow := do
  if let some id := id then
    if (← lookUp [id] (·.user? id)).isSome then throw (.row (.userExists id))
  let row : UserRow := ⟨id, displayName, ← now⟩
  insert (·.insertUser row)
  save
  return row

/-! ### Rooms and member records -/

/-- The row of a user, who has to exist. -/
def requireUser (id : Option String) (fault : String → RowFault) :
    Action Store (String × UserRow) := do
  match id with
  | none => throw (.row (fault (Value.plain .null)))
  | some id => match ← lookUp [id] (·.user? id) with
    | some row => return (id, row)
    | none => throw (.row (fault id))

/-- It has to be said whether a room is direct. -/
def decided : Option Bool → Except Failure Bool
  | some isDirect => .ok isDirect
  | none => .error (.shape .type)

/-- Make a room: its creator joins at once, and everybody else is invited. In a direct room the
records of the invited carry the direct flag. The rows are committed together. -/
def createRoom (creator : Option String) (server : String) (invited : List (Option String))
    (isDirect : Option Bool) : Action Store RoomRow := do
  let (creator, creatorRow) ← requireUser creator .noCreator
  let invited ← invited.mapM fun id => requireUser id .noInvitee
  let id ← freshRoom server
  let time ← now
  let isDirect ← lift (decided isDirect)
  let room : RoomRow := ⟨id, creator, isDirect, time⟩
  insert (·.insertRoom room)
  insert (·.insertMember ⟨id, creator, Membership.joined.wire, creatorRow.displayName, none, time⟩)
  invited.forM fun (user, row) =>
    insert (·.insertMember ⟨id, user, Membership.invited.wire, row.displayName,
      if isDirect then some true else none, time⟩)
  save
  return room

/-- Record a new membership of a user in a room. The record before it is replaced as a whole, so the
direct flag stays only if it is given again. -/
def setMembership (room user membership : String) (isDirect : Option Bool) :
    Action Store MemberRow := do
  let name := (← lookUp [user] (·.user? user)).bind (·.displayName)
  let row : MemberRow := ⟨room, user, membership, name, isDirect, ← now⟩
  insert (·.putMember row)
  save
  return row

/-! ### Documents -/

/-- Replace a document of a user. -/
def setDocument (user type : String) (content : Value) : Action Store Unit := do
  let _ ← now
  insert (·.putDocument ⟨user, type, content⟩)
  save

end Store

end PairChat
