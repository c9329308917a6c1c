import PairChat.BlockList
import PairChat.Handle
import PairChat.MemberEvent
import PairChat.Provider
import PairChat.Text.Bytes
import PairChat.Web.Endpoint
import PairChat.Web.Exchange
import PairChat.Web.Location

/-!
# Accounts of a homeserver

An `Account` of a homeserver is fixed by its access token; which one it is, the homeserver has to be
asked. The answer is kept in the `Session`, as is the name of the home server that is taken from it.
The session also holds every exchange in order, so what an operation sends can be stated about it.

`Account.provider` is the provider of such an account.  A document that is not found does not exist,
a user that is not found is unknown, and every other rejection is passed on.
-/

namespace PairChat.Web

open PairChat.Action

/-- Where an account is and what it shows to be let in. -/
structure Account where
  url : String
  location : Location
  token : Value := .null
deriving DecidableEq, Repr

/-- What is known about an account while it is used, and whether it still may be. -/
structure Known where
  account : Value := .null
  homeServer : Value := .null
  isOpen : Bool := true
deriving DecidableEq, Repr

/-- The use of an account: what is known about it, the homeserver, and what was exchanged with
it. -/
structure Session (ν : Type) extends Known where
  server : ν
  exchanges : List (Request × Option Response) := []

namespace Account

variable {ν : Type} (h : Homeserver ν) (a : Account)

/-! ### Requests -/

/-- What the account shows to be let in: who is named in the location, else its token. -/
def authorization : Option String :=
  match a.location.credentials? with
  | some (name, password) =>
    some ("Basic " ++ String.ofList (Text.Bytes.encode (Text.utf8 (name ++ ':' :: password))))
  | none => if a.token.isEmpty then none else some ("Bearer " ++ a.token.plain)

/-- **The account at a location with a token.** What it shows to be let in has to be ASCII. -/
def ofUrl (url : String) (token : Value) : Except Failure Account := do
  let shown ← token.spelled
  let location ← Location.ofText url
  if !token.isEmpty && !shown.toList.all fun c => c.toNat < 0x80 then throw .notEncodable
  return { url, location, token }

/-- The part of a path behind that of the protocol. -/
def behindProtocol : List Char → Option (List Char)
  | [] => none
  | c :: cs =>
    if protocolPath.toList.isPrefixOf (c :: cs) then some ((c :: cs).drop protocolPath.length)
    else behindProtocol cs

/-- The request for an endpoint, and whether a scheme is named for it. What stands in the query of
the location is sent along if nothing else is. -/
def request (method : Method) (endpoint : Endpoint) (body : Option Value)
    (query : List (String × Body)) : Except Failure (Request × Bool) := do
  if !endpoint.isWhole then throw .notEncodable
  let address ← a.location.under (protocolPath ++ endpoint.path).toList
  if let some f := body.bind Json.unwritten? then throw f
  let found := Location.fields (address.query.getD [])
  return ({
    method
    path := String.ofList address.path
    resource := String.ofList ((behindProtocol address.path).getD address.path)
    query := if query.isEmpty then found.map fun (name, value) => (name, .text value) else query
    body
    authorization := a.authorization }, address.hasScheme)

/-- Send a request, and take the answer of the response. Without a scheme nothing can be made of
it. -/
def send (method : Method) (endpoint : Endpoint) (body : Option Value)
    (query : List (String × Body)) : Action (Session ν) Value := do
  let s ← getState
  let (request, hasScheme) ← lift (a.request method endpoint body query)
  if !s.isOpen then throw .connectionClosed
  let (response, server) := h.respond request s.server
  setState { s with server, exchanges := s.exchanges ++ [(request, response)] }
  match response with
  | none => throw .unreachable
  | some response => lift (if hasScheme then response.answer else .error (.shape .value))

/-- Send a request for something to read. -/
def get (endpoint : Endpoint) : Action (Session ν) Value := a.send h .get endpoint none []

/-- Send a request that something be done. -/
def post (endpoint : Endpoint) (body : Value) : Action (Session ν) Value :=
  a.send h .post endpoint (some body) []

/-- A rejection that says that something does not exist as an answer. -/
def orElseMissing {α : Type} (value : α) (action : Action (Session ν) α) : Action (Session ν) α :=
  recover action fun e => if e.isNotFound then .ok value else .error e

/-! ### The account -/

/-- A missing document is an empty one. -/
def orEmpty (v : Value) : Value := if v.isEmpty then .map [] else v

/-- An entry of a document that has to be a mapping. -/
def entry (key : String) (missing : Value) : Value → Except Failure Value
  | .map entries => .ok ((Value.get? key (.map entries)).getD missing)
  | _ => .error (.shape .attribute)

/-- The account as the homeserver reports it. -/
def identity : Action (Session ν) Value := do
  let s ← getState
  if s.account ≠ .null then return s.account
  let reply ← a.get h .whoami
  let account ← lift (entry "user_id" .null (orEmpty reply))
  modify fun s => { s with account }
  return account

/-- The account, which has to be known. -/
def me : Action (Session ν) Value := do
  let account ← a.identity h
  if account.isEmpty then throw (.noAccount .reply) else return account

/-- The account as a segment of a path. Only a text is one. -/
def segment (account : Value) : Except Failure String :=
  match account with
  | .text user => .ok user
  | _ => .error (.shape .type)

/-- The name of the home server: the one that was given, else the server part of the account. -/
def homeServer : Action (Session ν) Value := do
  let s ← getState
  if s.homeServer ≠ .null then return s.homeServer
  let account ← a.identity h
  let server ←
    if account.isEmpty then pure none
    else match account with
      | .text user => pure (UserId.server? user)
      | _ => throw (.shape .attribute)
  match server with
  | some server =>
    modify fun s => { s with homeServer := .text server }
    return .text server
  | none => throw (.noAccount .server)

/-- Is there such an account? -/
def userExists (user : String) : Action (Session ν) Bool :=
  orElseMissing false do
    let _ ← a.get h (.profile user)
    return true

/-! ### Documents -/

/-- A document of the account, `null` if it does not exist. -/
def document (type : String) : Action (Session ν) Value :=
  orElseMissing .null do
    let user ← lift (segment (← a.me h))
    a.get h (.document user type)

/-- Replace a document of the account. -/
def setDocument (type : String) (content : Value) : Action (Session ν) Unit := do
  let user ← lift (segment (← a.me h))
  let _ ← a.send h .put (.document user type) (some content) []

/-- The type of the document that holds the registry. -/
def registryType : String := "m.direct"

/-- The type of the document that holds the block list. -/
def blockListType : String := "m.ignored_user_list"

/-- The registry, if it was ever written. -/
def registry? : Action (Session ν) (Option (Registry String)) := do
  lift (Registry.ofContent (← a.document h registryType))

/-- The registry with room identifiers as values. -/
def reported (registry : Option (Registry String)) : Registry Value :=
  (registry.getD []).map fun (user, rooms) => (user, rooms.map .text)

/-- Write a registry if it was changed. -/
def putRegistry (update : Registry Value × Bool) : Action (Session ν) Unit := do
  if update.2 then a.setDocument h registryType (update.1.toContent id)

/-! ### Rooms -/

/-- The description of a new direct chat with an account: private and encrypted, marked as a direct
chat, with equal powers for both and the power to redact for nobody. -/
def newRoom (user : String) : Value :=
  let state (type : String) (content : List (String × Value)) : Value :=
    .object [("type", .text type), ("state_key", .text ""), ("content", .object content)]
  .object [
    ("is_direct", .bool true),
    ("visibility", .text "private"),
    ("preset", .text "trusted_private_chat"),
    ("invite", .list [.text user]),
    ("initial_state", .list [
      state "m.room.encryption" [("algorithm", .text "m.megolm.v1.aes-sha2")],
      state "io.directchats.type" [("type", .text "chat.direct")]]),
    ("power_level_content_override", .object [("users_default", .int 100), ("redact", .int 101)])]

/-- The identifier of the room in the answer to a request for one. -/
def roomOf : Value → Except Failure Value
  | .map entries => match Value.get? "room_id" (.map entries) with
    | some room => .ok room
    | none => .error (.shape .key)
  | _ => .error (.shape .type)

/-- Make a direct chat with an account, and list it under the own account only. -/
def create (user : String) : Action (Session ν) Value := do
  let me ← a.me h
  let room ← lift (roomOf (← a.post h .createRoom (newRoom user)))
  let registry ← a.registry? h
  let owner ← lift (segment me)
  a.putRegistry h ((reported registry).addCreated owner room)
  return room

/-- Join a room, and list it under an account. The registry is read before the room is joined. -/
def joinAs (user : Value) (room : String) : Action (Session ν) Unit := do
  let registry ← a.registry? h
  let _ ← a.post h (.join room) (.map [])
  a.putRegistry h (← lift ((reported registry).addJoinedOf user (.text room)))

/-- Join a room, and list it under an identifier. -/
def join (user room : String) : Action (Session ν) Unit := a.joinAs h (.text user) room

/-- Leave a room. -/
def leave (room : String) : Action (Session ν) Unit := do
  let _ ← a.post h (.leave room) (.map [])

/-! ### The room list -/

/-- What is asked for in the room list: the member events of the rooms, and nothing else. -/
def roomFilter : Value :=
  let nothing : Value := .object [("types", .list [])]
  .object [
    ("presence", nothing),
    ("account_data", nothing),
    ("room", .object [
      ("include_leave", .bool false),
      ("state", .object [("types", .list [.text MemberEvent.memberType]),
        ("lazy_load_members", .bool false)]),
      ("timeline", .object [("types", .list [.text MemberEvent.memberType]), ("limit", .int 10)]),
      ("ephemeral", nothing),
      ("account_data", nothing)])]

/-- The entries of a value that has to be a mapping. -/
def entriesOf : Value → Except Failure (List (Scalar × Value))
  | .map entries => .ok entries
  | _ => .error (.shape .attribute)

/-- The events under a key of a room, an empty list if they are missing. -/
def events (key : String) (room : Value) : Except Failure Value := do
  entry "events" (.list []) (← entry key (.map []) room)

/-- Two values one after the other: lists, or texts. -/
def joinEvents : Value → Value → Except Failure Value
  | .list xs, .list ys => .ok (.list (xs ++ ys))
  | .text s, .text t => .ok (.text (s ++ t))
  | _, _ => .error (.shape .type)

/-- The members of a room whose events are its state and then its timeline. -/
def settledMembers (room : Value) : Except Failure (List Member) := do
  let state ← events "state" room
  let timeline ← events "timeline" room
  MemberEvent.membersOf (← joinEvents state timeline)

/-- The members of a room that the account is invited to. -/
def invitedMembers (room : Value) : Except Failure (List Member) := do
  MemberEvent.membersOf (← events "invite_state" room)

/-- The own membership in a room among those that were left. -/
def ownMembership (me : Value) (members : List Member) : Membership :=
  match members.find? fun m => Value.text m.userId == me with
  | some m => m.membership
  | none => .left

/-- The rooms in one section of the room list. -/
def roomSection (key : String) (members : Value → Except Failure (List Member))
    (membership : List Member → Membership) (rooms : Value) : Except Failure (List Room) := do
  (← entriesOf (← entry key (.map []) rooms)).mapM fun (id, room) => do
    let ms ← members room
    return ⟨id.plain, membership ms, ms⟩

/-- The rooms of a room list: those joined, those invited to, those left. -/
def roomsOf (me : Value) (reply : Value) : Except Failure (List Room) := do
  let rooms ← entry "rooms" (.map []) (orEmpty reply)
  let joined ← roomSection "join" settledMembers (fun _ => .joined) rooms
  let invited ← roomSection "invite" invitedMembers (fun _ => .invited) rooms
  let left ← roomSection "leave" settledMembers (ownMembership me) rooms
  return joined ++ invited ++ left

/-- The rooms that the account sees. -/
def rooms : Action (Session ν) (List Room) := do
  let me ← a.me h
  let reply ← a.send h .get .sync none
    [("timeout", .document (.int 0)), ("filter", .document roomFilter)]
  lift (roomsOf me reply)

/-- The members of a room, `none` if there is no such room. -/
def members? (room : String) : Action (Session ν) (Option (List Member)) := do
  let reply ← orElseMissing none (do return some (← a.get h (.members room)))
  match reply with
  | none => return none
  | some reply =>
    let chunk ← lift (entry "chunk" (.list []) (orEmpty reply))
    return some (← lift (MemberEvent.membersOf chunk))

/-! ### The block list -/

/-- The block list of the account. -/
def blockList : Action (Session ν) BlockList := do
  lift (BlockList.ofContent (← a.document h blockListType))

/-- Replace the block list. A key without a strict form cannot be sent. -/
def setBlockList (blocked : BlockList) : Action (Session ν) Unit := do
  if blocked.any fun e => Json.isUnlimited e.1 then throw (.shape .value)
  a.setDocument h blockListType blocked.toContent

/-- Put an account on the block list. -/
def block (user : String) : Action (Session ν) Unit := do
  a.setBlockList h ((← a.blockList h).block user)

/-- Take an account off the block list; nothing is written if it is not on it. -/
def unblock (user : String) : Action (Session ν) Unit := do
  let blocked ← a.blockList h
  if blocked.contains user then a.setBlockList h (blocked.unblock user)

/-! ### The provider -/

/-- The provider of an account. -/
def provider : Provider (Session ν) where
  account := a.identity h
  homeServer := a.homeServer h
  userExists := a.userExists h
  create := a.create h
  room? room := return (← a.rooms h).find? (·.id == room)
  join := a.joinAs h
  leave := a.leave h
  rooms := a.rooms h
  members? := a.members? h
  registry? := a.registry? h
  block := a.block h
  unblock := a.unblock h
  blocked := return (← a.blockList h).accounts

end Account

end PairChat.Web
