import PairChat.Host
import PairChat.Lifecycle
import PairChat.Options
import PairChat.Store.Account
import PairChat.Text.Capital
import PairChat.Web.Account

/-!
# Clients: one account on one provider

A `Client` acts as one account: on a store in memory, on a store in a directory, or on a homeserver.
What it does is an action on a `Visit`, the client together with the host it runs on.

* `act` carries out what can be done on any provider, `onStore` what needs a store;
* `perform` carries out an operation on direct chats, and waits after it if it changed something;
* `asUser` acts as another account of the same store. That account shares the connection, but
  closing it does not close the store.
-/

namespace PairChat

open Files (Path)
open Store (Tables)

/-- Where a store is kept. A store in a directory is shown as its path; its tables are in a file. -/
inductive Shelf where
  | memory (saved : Tables)
  | directory (path : Path) (file : List String)
deriving DecidableEq, Repr

/-- Where the account of a client is, and what the client knows about it. -/
inductive Backend where
  | store (account : Store.Account) (shelf : Shelf) (pending : Option Tables)
  | homeserver (account : Web.Account) (known : Web.Known)
deriving DecidableEq, Repr

/-- An account on a provider. A derived client uses the connection of another one. -/
structure Client where
  settings : Settings
  backend : Backend
  isDerived : Bool := false
deriving DecidableEq, Repr

/-- A client and the host it runs on. -/
structure Visit (ν : Type) where
  host : Host ν
  client : Client

/-! ### Shelves -/

namespace Shelf

variable {ν : Type}

/-- The tables that are kept. -/
def tables (host : Host ν) : Shelf → Tables
  | .memory saved => saved
  | .directory _ file => match host.tree.node? file with
    | some (.store tables) => tables
    | _ => {}

/-- Keep other tables. -/
def keep (host : Host ν) (tables : Tables) : Shelf → Host ν × Shelf
  | .memory _ => (host, .memory tables)
  | .directory path file =>
    ({ host with tree := Files.Tree.put file (.store tables) host.tree }, .directory path file)

/-- The word for the kind of provider. -/
def kind : Shelf → String
  | .memory _ => "in_memory"
  | .directory .. => "local"

/-- Where the store is. -/
def location : Shelf → String
  | .memory _ => ":memory:"
  | .directory path _ => path.toText

/-- The path of the store as an option. -/
def pathOption : Shelf → Value
  | .memory _ => .null
  | .directory path _ => .text path.toText

end Shelf

namespace Client

open PairChat.Action

variable {ν : Type}

/-! ### What a client is -/

/-- The word for the kind of provider. -/
def kind (c : Client) : String :=
  match c.backend with
  | .store _ shelf _ => shelf.kind
  | .homeserver .. => "remote"

/-- Where the provider is. -/
def location (c : Client) : String :=
  match c.backend with
  | .store _ shelf _ => shelf.location
  | .homeserver account _ => account.url

/-- A client on an empty store in memory. The name of the home server may be missing. -/
def memory (settings : Settings) : Client where
  settings
  backend :=
    let homeServer := settings.options.homeServer
    .store { user := settings.options.user
             homeServer :=
              if homeServer.isEmpty then .text Store.defaultHomeServer else homeServer }
      (.memory {}) none

/-- A client on a homeserver. -/
def homeserver (settings : Settings) (url : String) (token : Value) : Except Failure Client := do
  let account ← Web.Account.ofUrl url token
  return ⟨settings, .homeserver account { homeServer := settings.options.homeServer }, false⟩

/-! ### Acting -/

/-- Do something on the store of the client, or fail if it has none. -/
def onStore {α : Type} (otherwise : Failure) (f : Store.Account → Action Store α) :
    Action (Visit ν) α :=
  ofOutcome fun v =>
    match v.client.backend with
    | .homeserver .. => (.error otherwise, v)
    | .store account shelf pending =>
      let before : Store := ⟨shelf.tables v.host, pending, v.host.clock, v.host.nextRoom⟩
      let (result, after) := (f account).outcome before
      let (host, shelf) := shelf.keep v.host after.saved
      (result, {
        host := { host with clock := after.clock, nextRoom := after.nextRoom }
        client := { v.client with backend := .store account shelf after.pending } })

/-- **Do something that can be done on any provider.** -/
def act {α : Type} (h : Web.Homeserver ν) (f : (σ : Type) → Provider σ → Action σ α) :
    Action (Visit ν) α := do
  let v ← getState
  match v.client.backend with
  | .store .. => onStore .assertion fun account => f Store account.provider
  | .homeserver account known => ofOutcome fun v =>
    let before : Web.Session ν := { known with server := v.host.server }
    let (result, after) := (f (Web.Session ν) (account.provider h)).outcome before
    (result, {
      host := { v.host with
        server := after.server, exchanges := v.host.exchanges ++ after.exchanges }
      client := { v.client with backend := .homeserver account after.toKnown } })

/-- Wait as long as the settings say after a change. -/
def settle : Action (Visit ν) Unit := do
  let v ← getState
  let delay := v.client.settings.delay
  if delay.isPositive then
    within Visit.host (fun host v => { v with host }) (Host.wait delay)

/-- **Carry out an operation**, and wait if it changed something. -/
def perform (h : Web.Homeserver ν) (op : Operation) : Action (Visit ν) Answer := do
  let answer ← act h fun _ p => op.perform p
  if op.changes then settle
  return answer

/-! ### Provisioning -/

/-- Register the account of a handle. -/
def register (handle : String) (name : Option String) : Action (Visit ν) String :=
  onStore (.needsStore "register_user") fun account => account.register handle name

/-- Register accounts that are named after their handles, up to the first failure. -/
def registerAll (handles : List String) : Action (Visit ν) (List String) :=
  handles.mapM fun handle => register handle (some (Text.capitalize handle))

/-- The registered accounts. -/
def users : Action (Visit ν) (List Store.UserRow) :=
  onStore (.needsStore "list_users") fun account => account.users

/-! ### Sharing and closing -/

/-- The settings of a client that acts as another account of the same store. -/
def derivedSettings (user : Value) (v : Visit ν) : Except Failure Settings :=
  match v.client.backend with
  | .homeserver .. => .error (.needsStore "as_user")
  | .store account shelf _ => Settings.ofOptions v.host.environment v.host.directory {
      path := shelf.pathOption
      inMemory := v.client.settings.target == .memory
      user
      homeServer := account.homeServer
      settleDelay := v.client.settings.options.settleDelay }

/-- The client with another account of the same store. -/
def withAccount (c : Client) (account : Store.Account) : Client :=
  match c.backend with
  | .store _ shelf pending => { c with backend := .store account shelf pending }
  | .homeserver .. => c

/-- The account on the store of a client. -/
def account? (c : Client) : Option Store.Account :=
  match c.backend with
  | .store account .. => some account
  | .homeserver .. => none

/-- The client that acts as another account of the same store. -/
def derived (c : Client) (settings : Settings) (user : Value) : Client :=
  match c.account? with
  | some account => { c.withAccount { account with user } with settings, isDerived := true }
  | none => c

/-- The client behind a derived one, with what the derived one left in the store. -/
def restored (c derived : Client) : Client :=
  match c.account? with
  | some account =>
    { derived.withAccount account with settings := c.settings, isDerived := c.isDerived }
  | none => c

/-- **Act as another account of the same store.** -/
def asUser {α : Type} (user : Value) (action : Action (Visit ν) α) : Action (Visit ν) α := do
  let v ← getState
  let settings ← lift (derivedSettings user v)
  setState { v with client := v.client.derived settings user }
  let result ← attempt action
  let w ← getState
  setState { w with client := v.client.restored w.client }
  lift result

/-- The client after it was closed: nothing can be done with it any more, and what was not committed
is lost. A derived client leaves the store as it is. -/
def closed (c : Client) : Client :=
  match c.backend with
  | .store account shelf pending =>
    let pending := if c.isDerived then pending else none
    { c with backend := .store { account with isOpen := false } shelf pending }
  | .homeserver account known =>
    { c with backend := .homeserver account { known with isOpen := false } }

/-- Close the client. -/
def close : Action (Visit ν) Unit := do
  let v ← getState
  setState { v with client := v.client.closed }

end Client

end PairChat
