import PairChat.Json.Writer

/-!
# The registry: which rooms are direct chats

The registry of an account maps account identifiers to room identifiers, in order.  It is read from
a document that other programs write too (`Registry.ofContent`), and two operations extend it: a
room that was made is listed under its maker only (`addCreated`), a room that was joined is listed
under the joining account besides (`addJoined`).  Both say whether anything changed.

The identifiers of rooms are texts; the operations are stated for any kind of identifier.
-/

namespace PairChat

/-- Account identifiers with the rooms listed under them. -/
abbrev Registry (ρ : Type) : Type := List (String × List ρ)

namespace Registry

variable {ρ : Type} [DecidableEq ρ]

/-- The rooms listed under an account. -/
def roomsOf (reg : Registry ρ) (user : String) : List ρ := (reg.lookup user).getD []

/-- The registry with the rooms of one account replaced, in its place or at the end. -/
def put (user : String) (rooms : List ρ) : Registry ρ → Registry ρ
  | [] => [(user, rooms)]
  | (u, rs) :: reg => if u = user then (u, rooms) :: reg else (u, rs) :: put user rooms reg

/-- The registry with a room listed under no other account than `user`. -/
def withdraw (reg : Registry ρ) (user : String) (room : ρ) : Registry ρ :=
  reg.map fun (u, rs) => if u = user then (u, rs) else (u, rs.filter (· ≠ room))

/-- Is the room listed under another account than `user`? -/
def isListedElsewhere (reg : Registry ρ) (user : String) (room : ρ) : Bool :=
  reg.any fun (u, rs) => u != user && rs.contains room

/-- The registry with a joined room listed under the joining account, and whether that is a
change. -/
def addJoined (reg : Registry ρ) (user : String) (room : ρ) : Registry ρ × Bool :=
  let rooms := reg.roomsOf user
  if rooms.contains room then (reg, false) else (reg.put user (rooms ++ [room]), true)

/-- The registry with a new room listed under its maker only, and whether that is a change. -/
def addCreated (reg : Registry ρ) (user : String) (room : ρ) : Registry ρ × Bool :=
  let (listed, changed) := (reg.withdraw user room).addJoined user room
  (listed, reg.isListedElsewhere user room || changed)

/-! ### Accounts of any kind -/

/-- The key of an account that is no text. It is written as a text, and a value with parts, a date
and bytes are not. -/
def writtenKey : Value → Except Failure String
  | .scalar (.bytes _) | .scalar (.date _) | .scalar (.moment ..) => .error (.shape .type)
  | .scalar s => .ok (Json.keyText s)
  | _ => .error (.shape .type)

/-- `addJoined` for an account of any kind. One that is no text is not found in the registry, so
what stands under its key is replaced. -/
def addJoinedOf (reg : Registry ρ) (user : Value) (room : ρ) :
    Except Failure (Registry ρ × Bool) :=
  match user.content with
  | .text user => .ok (reg.addJoined user room)
  | user => return (reg.put (← writtenKey user) [room], true)

/-- `addCreated` for an account of any kind. One that is no text is not found in the registry, so
the room is listed under no account that stands there. -/
def addCreatedOf (reg : Registry ρ) (user : Value) (room : ρ) :
    Except Failure (Registry ρ × Bool) :=
  match user.content with
  | .text user => .ok (reg.addCreated user room)
  | user => do
    let key ← writtenKey user
    return (Registry.put key [room] (reg.map fun (u, rs) => (u, rs.filter (· ≠ room))), true)

/-! ### The registry as a document -/

/-- The registry that a document holds, `none` if there is no document: of each list, the texts;
entries without a list are passed over. -/
def ofContent : Value → Except Failure (Option (Registry String))
  | .null => .ok none
  | .map entries => .ok (some (entries.filterMap fun (key, v) =>
      match key, v with
      | .text user, .list items => some (user, items.filterMap Value.text?)
      | _, _ => none))
  | _ => .error (.shape .attribute)

/-- The document of a registry. -/
def toContent (identifier : ρ → Value) (reg : Registry ρ) : Value :=
  .object (reg.map fun (user, rooms) => (user, .list (rooms.map identifier)))

end Registry

end PairChat
