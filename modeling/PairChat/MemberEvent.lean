import PairChat.Failure
import PairChat.Room

/-!
# Member events: how a homeserver reports who is in a room

A homeserver sends a list of events; each member event replaces the record of one user.
`MemberEvent.ofValue?` reads one event and refuses the malformed ones.  `MemberEvent.members` keeps
the latest record of each user, in the order of the first record since the last removal.

* an event with a membership of the five is a record;
* a well-formed event with another membership or none removes the user's record;
* malformed events and events of other types change nothing.
-/

namespace PairChat

/-- A well-formed event. -/
inductive MemberEvent where
  | record (member : Member)
  | removal (user : String)
  | unrelated
deriving DecidableEq, Repr

namespace MemberEvent

/-- The type of the events that are about a member. -/
def memberType : String := "m.room.member"

/-- A text, or nothing if the value is missing; any other value is malformed. -/
def optionalText? : Option Value → Option (Option String)
  | none | some .null => some none
  | some (.text s) => some (some s)
  | some _ => none

/-- A flag counts only if it is a truth value. -/
def flag? : Option Value → Option Bool
  | some (.bool b) => some b
  | _ => none

/-- The event about a user with the given content, if the content is well formed. -/
def ofContent? (user : String) (content : Value) : Option MemberEvent := do
  let word ← optionalText? (content.get? "membership")
  let name ← optionalText? (content.get? "displayname")
  match word.bind Membership.ofWire? with
  | some membership => some (.record ⟨user, membership, name, flag? (content.get? "is_direct")⟩)
  | none => some (.removal user)

/-- The content of an event: a mapping, empty if it is missing. -/
def content? (event : Value) : Option Value :=
  match event.get? "content" with
  | none => some (.map [])
  | some (.map entries) => some (.map entries)
  | some _ => none

/-- The event that a value is, if it is well formed. -/
def ofValue? (event : Value) : Option MemberEvent :=
  match event with
  | .map _ => do
    let type ← (event.get? "type").bind Value.text?
    let user ← optionalText? (event.get? "state_key")
    let content ← content? event
    match user with
    | some user => if type = memberType then ofContent? user content else some .unrelated
    | none => some .unrelated
  | _ => none

/-- The records with that of one user replaced, in its place or at the end. -/
def putMember (member : Member) : List Member → List Member
  | [] => [member]
  | m :: ms => if m.userId = member.userId then member :: ms else m :: putMember member ms

/-- The records after one more event. -/
def step (members : List Member) (event : Value) : List Member :=
  match ofValue? event with
  | some (.record member) => putMember member members
  | some (.removal user) => members.filter (·.userId ≠ user)
  | some .unrelated | none => members

/-- **The records that a list of events leaves.** -/
def members (events : List Value) : List Member := events.foldl step []

/-- The records that a value leaves where a list of events is expected. The parts of a text and the
keys of a mapping are no events. -/
def membersOf (events : Value) : Except Failure (List Member) :=
  match events with
  | .list events => .ok (members events)
  | .text _ | .map _ | .set _ => .ok []
  | _ => .error (.shape .type)

end MemberEvent

end PairChat
