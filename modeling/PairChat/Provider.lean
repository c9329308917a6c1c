import PairChat.Action
import PairChat.Registry
import PairChat.Room

/-!
# Providers: where rooms come from

A provider acts as one account.  It supplies the rooms of the account with their member records, the
account's registry and its block list, and it carries out the changes.  Everything above the
providers is written once for all of them.

Identifiers that a homeserver reports are kept as the values they are: a provider without an account
reports `null`, and a homeserver that breaks the protocol may report anything.
-/

namespace PairChat

/-- The operations of an account, on states `σ`. -/
structure Provider (σ : Type) where
  /-- The account that is acted as. -/
  account : Action σ Value
  /-- The home server that handles are qualified with. -/
  homeServer : Action σ Value
  /-- Is there such an account? -/
  userExists : String → Action σ Bool
  /-- Make a direct chat with an account, and record it. The answer is the identifier of the
  room. -/
  create : String → Action σ Value
  /-- A room that the account sees. -/
  room? : String → Action σ (Option Room)
  /-- Join a room, and record it under an account. -/
  join : Value → String → Action σ Unit
  /-- Leave a room. -/
  leave : String → Action σ Unit
  /-- The rooms that the account sees. -/
  rooms : Action σ (List Room)
  /-- The member records of a room, read anew. -/
  members? : String → Action σ (Option (List Member))
  /-- The registry, if it was ever written. -/
  registry? : Action σ (Option (Registry String))
  /-- Put an account on the block list. -/
  block : String → Action σ Unit
  /-- Take an account off the block list. -/
  unblock : String → Action σ Unit
  /-- The accounts on the block list. -/
  blocked : Action σ (List Scalar)

end PairChat
