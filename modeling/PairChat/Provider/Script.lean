import PairChat.Provider
import PairChat.Lifecycle

/-!
# Scripted providers

A scripted provider answers from a fixed `Script` and never changes.  Its state is the list of the
writing calls it received, in order, those that failed included; so what an operation does to any
provider can be read off a script.
-/

namespace PairChat

/-- A call of a provider's operation, with its arguments. -/
inductive ProviderCall where
  | account
  | userExists (user : String)
  | create (user : String)
  | room (room : String)
  | join (user : Value) (room : String)
  | leave (room : String)
  | rooms
  | members (room : String)
  | registry
  | block (user : String)
  | unblock (user : String)
  | blocked
deriving DecidableEq, Repr

/-- The answers of a scripted provider. -/
structure Script where
  account : Value := .null
  homeServer : String := "localhost"
  users : List String := []
  rooms : List Room := []
  registry : Option (Registry String) := none
  members : String → Option (List Member) := fun _ => none
  blocked : List String := []
  /-- The calls that are rejected. -/
  rejects : ProviderCall → Option Rejection := fun _ => none

namespace Script

open PairChat.Action

/-- Answer a call unless it is rejected. -/
def answer {α : Type} (s : Script) (call : ProviderCall) (value : α) :
    Action (List ProviderCall) α :=
  match s.rejects call with
  | some r => throw (.rejected r)
  | none => pure value

/-- Note a writing call, then answer it. -/
def write {α : Type} (s : Script) (call : ProviderCall) (value : α) :
    Action (List ProviderCall) α := do
  setState ((← getState) ++ [call])
  s.answer call value

/-- The room that a scripted provider answers to every request to make one. -/
def createdRoom (s : Script) : String := "!created:" ++ s.homeServer

/-- The provider that follows a script. -/
def provider (s : Script) : Provider (List ProviderCall) where
  account := s.answer .account s.account
  homeServer := pure (.text s.homeServer)
  userExists user := s.answer (.userExists user) (s.users.contains user)
  create user := s.write (.create user) (.text s.createdRoom)
  room? room := do
    s.answer (.room room) ()
    return (← s.answer .rooms s.rooms).find? (·.id == room)
  join user room := s.write (.join user room) ()
  leave room := s.write (.leave room) ()
  rooms := s.answer .rooms s.rooms
  members? room := s.answer (.members room) (s.members room)
  registry? := s.answer .registry s.registry
  block user := s.write (.block user) ()
  unblock user := s.write (.unblock user) ()
  blocked := s.answer .blocked (s.blocked.map .text)

end Script

end PairChat
