import PairChat.Provider

/-!
# Resolution: which rooms are direct chats

The registry is the only mark of a direct chat that other programs share, but it is written late and
is never pruned when somebody leaves.  Resolution combines it with the member records.

* `resolve` answers with the rooms of an owner in one state.  Listed rooms that some member has left
  are stale; they are crossed off a working copy of the list and left, one after the other, and are
  no part of the answer.  If no listed room remains, the rooms whose records carry the direct flag
  are the answer.  Nothing hangs on the working copy (`resolve_eq`).
* `hasChat` says whether a listed room holds a given counterparty who has not gone.  The member
  records are read anew for it.
-/

namespace PairChat.Resolver

open PairChat.Action

variable {σ : Type}

/-- The rooms and the registry of the account. Both are fetched in any case; of two failures that of
the rooms counts. A registry that was never written is empty. -/
def fetch (p : Provider σ) : Action σ (List Room × Registry String) := do
  let rooms ← attempt p.rooms
  let registry ← attempt p.registry?
  let rooms ← lift rooms
  let registry ← lift registry
  return (rooms, registry.getD [])

/-- The rooms listed under an owner. A value with parts is no key. -/
def listed (registry : Registry String) (owner : Value) : Except Failure (List String) :=
  match owner.content with
  | .text owner => .ok (registry.roomsOf owner)
  | .scalar _ => .ok []
  | _ => .error (.shape .type)

/-- The owner, who has to be known. -/
def knownOwner (owner : Value) : Except Failure Value :=
  if owner.isEmpty then .error (.noAccount .owner) else .ok owner

theorem knownOwner_eq_ok {owner : Value} (h : owner.isEmpty = false) :
    knownOwner owner = .ok owner := by
  rw [knownOwner, h]
  rfl

theorem knownOwner_eq_error {owner : Value} (h : owner.isEmpty = true) :
    knownOwner owner = .error (.noAccount .owner) := by
  rw [knownOwner, h]
  rfl

/-- The listed rooms in the given state. -/
def candidates (rooms : List Room) (listed : List String) (m : Membership) : List Room :=
  rooms.filter fun r => r.membership == m && listed.contains r.id

/-- Has some member left the room? -/
def isStale (room : Room) : Bool := room.hasMemberWith .left

/-- The rooms in the given state that carry the direct flag. -/
def flagged (rooms : List Room) (m : Membership) : List Room :=
  rooms.filter fun r => r.membership == m && r.hasDirectFlag

/-- The rooms that remain: the candidates that are not stale, or else the flagged rooms. -/
def remaining (rooms : List Room) (listed : List String) (m : Membership) : List Room :=
  let qualifying := (candidates rooms listed m).filter fun r => !isStale r
  if qualifying.isEmpty then flagged rooms m else qualifying

/-- Leave rooms, one after the other. Each is crossed off a working copy of the listed rooms before
it is left; the answer is what stands on the copy in the end. -/
def sweep (p : Provider σ) : List String → List Room → Action σ (List String)
  | copy, [] => return copy
  | copy, room :: rooms => do
    let copy := copy.erase room.id
    p.leave room.id
    sweep p copy rooms

/-- **The rooms that are direct chats of the owner in the given state.** The working copy is thrown
away in the end. -/
def resolve (p : Provider σ) (owner : Value) (m : Membership) : Action σ (List Room) := do
  let owner ← lift (knownOwner owner)
  let (rooms, registry) ← fetch p
  let listed ← lift (listed registry owner)
  let _ ← sweep p listed ((candidates rooms listed m).filter isStale)
  return remaining rooms listed m

/-- A room that is crossed off twice, or is on the copy twice, makes no difference to what is
left. -/
theorem sweep_bind {α : Type} (p : Provider σ) (copy : List String) (rooms : List Room)
    (k : Action σ α) :
    (sweep p copy rooms >>= fun _ => k) = (rooms.forM fun x => p.leave x.id) >>= fun _ => k := by
  induction rooms generalizing copy with
  | nil => rfl
  | cons x rooms ih =>
    show (p.leave x.id >>= fun _ => sweep p (copy.erase x.id) rooms) >>= _ =
      (p.leave x.id >>= fun _ => rooms.forM fun x => p.leave x.id) >>= _
    rw [bind_assoc, bind_assoc]
    exact congrArg _ (funext fun _ => ih (copy.erase x.id))

/-- **Nothing that is left or answered hangs on the working copy.** -/
theorem resolve_eq (p : Provider σ) (owner : Value) (m : Membership) :
    resolve p owner m = do
      let owner ← lift (knownOwner owner)
      let (rooms, registry) ← fetch p
      let listed ← lift (listed registry owner)
      ((candidates rooms listed m).filter isStale).forM fun room => p.leave room.id
      return remaining rooms listed m := by
  simp only [resolve, sweep_bind]

/-- Do the member records show the counterparty as a participant who has not gone? -/
def holds (counterparty : String) (members : Option (List Member)) : Bool :=
  (members.getD []).any fun r => r.userId == counterparty && r.membership.isActive

/-- **Does a listed room hold the counterparty?** Without an owner, the account of the provider is
asked for. -/
def hasChat (p : Provider σ) (counterparty : String) (owner : Value) : Action σ Bool := do
  let owner ← if owner = .null then p.account else pure owner
  let owner ← lift (knownOwner owner)
  let (rooms, registry) ← fetch p
  let listed ← lift (listed registry owner)
  let held ← forEach (rooms.filter fun r => listed.contains r.id) fun room => do
    return holds counterparty (← p.members? room.id)
  return held.any id

end PairChat.Resolver
