import PairChat.Membership
import PairChat.Value

/-!
# Rooms and their members

A `Room` is seen by one account: it carries that account's membership and the records of all members
in order.  The queries on a room look at its records only.
-/

namespace PairChat

/-- The record of a member of a room. The flag says whether the record was made for a direct
chat. -/
structure Member where
  userId : String
  membership : Membership
  displayName : Option String := none
  isDirect : Option Bool := none
deriving DecidableEq, Repr, Inhabited

/-- A room as the acting account sees it. -/
structure Room where
  id : String
  membership : Membership
  members : List Member := []
deriving DecidableEq, Repr, Inhabited

/-- The first member that is not the given account. -/
def otherMember? (account : Value) (members : List Member) : Option Member :=
  members.find? fun m => Value.text m.userId != account

namespace Room

/-- Has some member the given membership? -/
def hasMemberWith (room : Room) (m : Membership) : Bool := room.members.any (·.membership == m)

/-- Was some record made for a direct chat? -/
def hasDirectFlag (room : Room) : Bool := room.members.any (·.isDirect == some true)

/-- The first member of the room that is not the given account. -/
def otherMember? (room : Room) (account : Value) : Option Member :=
  PairChat.otherMember? account room.members

theorem hasMemberWith_iff {room : Room} {m : Membership} :
    room.hasMemberWith m ↔ ∃ r ∈ room.members, r.membership = m := by
  simp [hasMemberWith]

theorem hasDirectFlag_iff {room : Room} :
    room.hasDirectFlag ↔ ∃ r ∈ room.members, r.isDirect = some true := by
  simp [hasDirectFlag]

end Room

end PairChat
