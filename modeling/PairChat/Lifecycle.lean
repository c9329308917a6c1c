import PairChat.Handle
import PairChat.Resolver

/-!
# The life of a direct chat

The operations on direct chats for the account of a provider: make a chat with a handle that has
none yet, accept or decline an invitation, list invitations and chats, block and unblock handles.

An `Operation` is one of them with its argument, and `Operation.perform` carries it out; so a
history of a provider is a list of operations.
-/

namespace PairChat

open PairChat.Action

/-- What others see of an account. -/
structure Contact where
  handle : String
  name : String
deriving DecidableEq, Repr

/-- A direct chat that was joined. -/
structure Chat where
  id : String
  other : Contact
deriving DecidableEq, Repr

/-- An invitation to a direct chat. -/
structure Invitation where
  chatId : String
  inviter : Contact
deriving DecidableEq, Repr

namespace Member

/-- What others see of a member; a member without a name has an empty one. -/
def contact (m : Member) : Contact := ⟨UserId.handle m.userId, m.displayName.getD ""⟩

end Member

namespace Lifecycle

variable {σ : Type}

/-- The account of the provider, which has to be known. -/
def owner (p : Provider σ) : Action σ Value := do
  lift (Resolver.knownOwner (← p.account))

/-- The account of a handle, which has to exist. -/
def counterparty (p : Provider σ) (handle : String) (purpose : Purpose) : Action σ String := do
  let handle ← lift (Handle.check handle)
  let user := UserId.qualify handle (← lift (← p.homeServer).spelled)
  if ← p.userExists user then return user else throw (.unknownHandle purpose)

/-- **Make a direct chat with a handle**, unless there is one. -/
def create (p : Provider σ) (handle : String) : Action σ Value := do
  let user ← counterparty p handle .chat
  let me ← owner p
  if ← Resolver.hasChat p user me then throw .chatExists
  p.create user

/-- A room that the account sees, or a failure. -/
def visibleRoom (p : Provider σ) (chat : String) : Action σ Room := do
  match ← p.room? chat with
  | some room => return room
  | none => throw (.roomNotFound chat)

/-- Join a chat that the account was invited to. -/
def accept (p : Provider σ) (chat : String) : Action σ Unit := do
  let me ← owner p
  let room ← visibleRoom p chat
  p.join me room.id

/-- Leave a chat that the account was invited to. -/
def decline (p : Provider σ) (chat : String) : Action σ Unit := do
  let room ← visibleRoom p chat
  p.leave room.id

/-- The counterparty of an account among the members of a room. -/
def otherContact (me : Value) (members : List Member) : Except Failure Contact :=
  match otherMember? me members with
  | some m => .ok m.contact
  | none => .error .alone

/-- The invitations that wait for an answer. -/
def invitations (p : Provider σ) : Action σ (List Invitation) := do
  let me ← owner p
  let rooms ← Resolver.resolve p me .invited
  rooms.mapM fun room => do
    return ⟨chatId room.id, ← lift (otherContact me room.members)⟩

/-- The chats that were joined, with the counterparty read anew. -/
def joined (p : Provider σ) : Action σ (List Chat) := do
  let me ← owner p
  let rooms ← Resolver.resolve p me .joined
  forEach rooms fun room => do
    let members ← p.members? room.id
    return ⟨chatId room.id, ← lift (otherContact me (members.getD []))⟩

/-- Put a handle on the block list. -/
def block (p : Provider σ) (handle : String) : Action σ Unit := do
  p.block (← counterparty p handle .block)

/-- Take a handle off the block list. -/
def unblock (p : Provider σ) (handle : String) : Action σ Unit := do
  p.unblock (← counterparty p handle .unblock)

end Lifecycle

/-! ### Operations as data -/

/-- An operation of an account, with its argument. -/
inductive Operation where
  | create (handle : String)
  | accept (chat : String)
  | decline (chat : String)
  | invitations
  | joined
  | block (handle : String)
  | unblock (handle : String)
  | blocked
deriving DecidableEq, Repr

/-- The answer to an operation. -/
inductive Answer where
  | chat (id : Value)
  | done
  | invitations (all : List Invitation)
  | chats (all : List Chat)
  | accounts (all : List Scalar)
deriving DecidableEq, Repr

namespace Operation

variable {σ : Type}

/-- Carry out an operation. -/
def perform (p : Provider σ) : Operation → Action σ Answer
  | .create handle => return .chat (← Lifecycle.create p handle)
  | .accept chat => do Lifecycle.accept p chat; return .done
  | .decline chat => do Lifecycle.decline p chat; return .done
  | .invitations => return .invitations (← Lifecycle.invitations p)
  | .joined => return .chats (← Lifecycle.joined p)
  | .block handle => do Lifecycle.block p handle; return .done
  | .unblock handle => do Lifecycle.unblock p handle; return .done
  | .blocked => return .accounts (← p.blocked)

/-- Does the operation change something, so that a reader may have to wait for it? -/
def changes : Operation → Bool
  | .create _ | .accept _ | .decline _ | .block _ | .unblock _ => true
  | .invitations | .joined | .blocked => false

end Operation

end PairChat
