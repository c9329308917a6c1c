import PairChat.Store
import PairChat.BlockList
import PairChat.Handle
import PairChat.Provider

/-!
# Accounts of a local store

Several accounts share one store, and an `Account` is one of them, together with the name of the
home server and with the connection, which may be closed.  `Account.provider` is the provider of the
account.  Leaving a room does not take it off the registry, as on a homeserver.

`Account.register` adds an account to the store; it takes no account to do so.
-/

namespace PairChat.Store

open PairChat.Action

/-- The types of the documents that the chats are kept in. -/
def registryType : String := "m.direct"

@[inherit_doc registryType] def blockListType : String := "m.ignored_user_list"

/-- The name of the home server if none is given. -/
def defaultHomeServer : String := "localhost"

/-- Somebody who acts on a store. -/
structure Account where
  user : Value := .null
  homeServer : Value := .text defaultHomeServer
  isOpen : Bool := true
deriving DecidableEq, Repr

namespace Account

variable (a : Account)

/-- The connection has to be open. -/
def connected : Action Store Unit :=
  if a.isOpen then pure () else throw (.rejected (.ofTexts 500 "M_UNKNOWN" "Provider is closed"))

/-- The integers from the negative of this number on and below it can be stored. -/
def integerBound : Int := 9223372036854775808

/-- The identifier that a value is bound as. -/
def key (v : Value) : Except Failure String :=
  match v.content with
  | .scalar (.bool b) => .ok (if b then "1" else "0")
  | .scalar (.int n) =>
    if -integerBound ≤ n ∧ n < integerBound then .ok (toString n) else .error (.shape .overflow)
  | .scalar s => do bound [s.plain]; return s.plain
  | _ => .error .notStorable

/-- An account has to be chosen, over an open connection. -/
def chosen : Action Store Unit := do
  if a.user.isEmpty then throw (.rejected (.ofTexts 401 "M_MISSING_TOKEN" "No account selected"))
  a.connected

/-- The account that acts, as it is bound after some texts. -/
def session (texts : List String) : Action Store String := do
  a.chosen
  lift (bound texts)
  lift (key a.user)

/-! ### Provisioning -/

/-- A row fault, or a text that cannot be encoded, as the rejection of a request. -/
def rejectRow {α : Type} (status : Int) (code : String) : Failure → Except Failure α
  | .row fault => .error (.rejected (.ofTexts status code fault.message))
  | .unencodable text => .error (.rejected (.ofTexts status code (Text.encodingFault text)))
  | e => .error e

/-- Register the account of a handle. Without a name, or with an empty one, the handle is the
name. -/
def register (handle : String) (name : Option String) : Action Store String := do
  let handle ← lift (Handle.check handle)
  let user := UserId.qualify handle (← lift a.homeServer.spelled)
  a.connected
  let displayName := match name with
    | some name => if name.isEmpty then handle else name
    | none => handle
  let _ ← recover (createUser (some user) (some displayName)) (rejectRow 400 "M_USER_IN_USE")
  return user

/-- The registered accounts. -/
def users : Action Store (List UserRow) := do
  a.connected
  query (·.users)

/-! ### Rooms -/

/-- The record of a member, if its word on the wire stands for a membership. -/
def memberOfRow (row : MemberRow) : Option Member :=
  (Membership.ofWire? row.membership).map fun m => ⟨row.userId, m, row.displayName, row.isDirect⟩

/-- The members of a room. -/
def membersIn (room : String) (t : Tables) : List Member := (t.membersOf room).filterMap memberOfRow

/-- A room as the account sees it whose record has the given word, if that stands for a
membership. -/
def roomIn (room word : String) (t : Tables) : Option Room :=
  (Membership.ofWire? word).map fun m => ⟨room, m, membersIn room t⟩

/-- The rooms that an account sees. -/
def roomsIn (me : String) (t : Tables) : List Room :=
  (t.roomsOf me).filterMap fun (row, word) => roomIn row.id word t

/-- The registry of an account, if it was ever written. -/
def registryIn (me : String) (t : Tables) : Except Failure (Option (Registry String)) :=
  t.document me registryType >>= Registry.ofContent

/-- Change the registry of an account, and write it if that changed anything. -/
def updateRegistry (me : String)
    (f : Registry String → Except Failure (Registry String × Bool)) : Action Store Unit := do
  let registry ← lift (← query (registryIn me))
  let (registry, changed) ← lift (f (registry.getD []))
  if changed then setDocument me registryType (registry.toContent .text)

/-- Make a direct chat with an account. -/
def create (user : String) : Action Store Value := do
  a.chosen
  let server ← lift a.homeServer.spelled
  let make : Action Store (String × RoomRow) := do
    let me ← a.session []
    return (me, ← createRoom (some me) server [some user] (some true))
  let (me, room) ← recover make (rejectRow 404 Rejection.notFoundCode)
  updateRegistry me (·.addCreatedOf a.user room.id)
  return .text room.id

/-- A room in which the account has a record. -/
def room? (room : String) : Action Store (Option Room) := do
  let me ← a.session [room]
  query fun t => (t.member? room me).bind fun r => roomIn room r.membership t

/-- Join a room that the account was invited to or is in, and list it under a user. -/
def join (user : Value) (room : String) : Action Store Unit := do
  let me ← a.session [room]
  let mayJoin (r : MemberRow) : Bool :=
    r.membership == Membership.invited.wire || r.membership == Membership.joined.wire
  if (← query (·.member? room me)).any mayJoin then
    let _ ← setMembership room me Membership.joined.wire none
    updateRegistry me (·.addJoinedOf user room)
  else
    throw (.rejected (.ofTexts 403 "M_FORBIDDEN" (a.user.plain ++ " is not invited to " ++ room)))

/-- Leave a room in which the account has a record. -/
def leave (room : String) : Action Store Unit := do
  let me ← a.session [room]
  if (← query (·.member? room me)).isSome then
    let _ ← setMembership room me Membership.left.wire none
  else throw (.rejected (.ofTexts 404 Rejection.notFoundCode ("Room " ++ room ++ " not found")))

/-- The members of a room in which the account has a record, `none` if there is no such room. -/
def members? (room : String) : Action Store (Option (List Member)) := do
  a.chosen
  if (← lookUp [room] (·.room? room)).isNone then return none
  let me ← a.session [room]
  if (← query (·.member? room me)).isNone then
    throw (.rejected (.ofTexts 403 "M_FORBIDDEN" (a.user.plain ++ " is not in " ++ room)))
  return some (← query (membersIn room))

/-! ### The block list -/

/-- The block list of the account. -/
def blockList : Action Store BlockList := do
  let me ← a.session []
  lift ((← query (·.document me blockListType)) >>= BlockList.ofContent)

/-- Write the block list of the account. -/
def setBlockList (blocked : BlockList) : Action Store Unit := do
  let me ← a.session []
  setDocument me blockListType blocked.toContent

/-- Put an account on the block list. -/
def block (user : String) : Action Store Unit := do
  a.setBlockList ((← a.blockList).block user)

/-- Take an account off the block list; nothing is written if it is not on it. -/
def unblock (user : String) : Action Store Unit := do
  let blocked ← a.blockList
  if blocked.contains user then a.setBlockList (blocked.unblock user)

/-! ### The provider -/

/-- The provider of an account. -/
def provider : Provider Store where
  account := pure a.user
  homeServer := pure a.homeServer
  userExists user := do
    a.connected
    lookUp [user] fun t => (t.user? user).isSome
  create := a.create
  room? := a.room?
  join := a.join
  leave := a.leave
  rooms := do query (roomsIn (← a.session []))
  members? := a.members?
  registry? := do lift (← query (registryIn (← a.session [])))
  block := a.block
  unblock := a.unblock
  blocked := return (← a.blockList).accounts

end Account

end PairChat.Store
