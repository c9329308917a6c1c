import PairChat.Client.Opening
import PairChat.Proofs.History
import PairChat.Proofs.Opening
import PairChat.Proofs.TwoRuns

/-!
# Reopening: what is answered is kept

A client on a store in a directory may be closed and opened again between any two calls.  As long as
nobody makes a chat with themselves, nothing is ever left uncommitted (`Effect.pending`), so nobody
notices.

* `InMemory`, `OnDisk`: a client acts on a store; `call` says what a call does to both, and
  `OnDisk.reopen` what reopening does.
* `reopening_unseen`: **every sequence of calls has the same replies on a store in a directory that
  is reopened at will as on one in memory that is not.**
-/

namespace PairChat

open PairChat.Action Store Store.Account Store.Directory
open Files (Path Tree)

variable {ν : Type} {server : String} {s s' : Store} {c : Call} {v v' : Visit ν}

/-! ### Nothing is left uncommitted -/

namespace Store

/-- Does an account ask for a chat with itself? -/
def Call.isOwnChat (server : String) : Call → Bool
  | .perform (some me) (.create handle) => UserId.qualify handle server == me
  | _ => false

theorem pending_listed {me room : String} (h : s.pending = none) :
    (s.listed me room).pending = none := by
  unfold listed
  split_ifs
  · exact h
  · rfl

theorem pending_leftRooms {me : String} (rooms : List Room) (h : s.pending = none) :
    (s.leftRooms me rooms).pending = none := by
  induction rooms generalizing s with
  | nil => exact h
  | cons x rooms ih => exact ih rfl

/-- **Only an attempt to make a chat with oneself leaves something uncommitted.** -/
theorem Effect.pending {r : Except Failure Reply} (he : Effect server s c r s')
    (hc : c.isOwnChat server = false) (h : s.pending = none) : s'.pending = none := by
  cases he with
  | failed instants => exact h
  | observed hop => exact h
  | registered hh hid hne hname hfree => rfl
  | made hu hv hne hfree => exact pending_listed rfl
  | begun hu he hfree => simp [Call.isOwnChat, ← he] at hc
  | accepted ha => exact pending_listed rfl
  | declined hm => rfl
  | swept => exact pending_leftRooms _ h
  | blockList hop hu => rfl

end Store

/-! ### Calls on a client -/

/-- A call on the store of an account: whoever makes it shares the connection. -/
def Store.Call.runOn (a : Account) : Call → Action Store Reply
  | .register handle name => return .registered (← a.register handle name)
  | .perform user op => return .answered (← op.perform { a with user := .ofText? user }.provider)

theorem Store.Call.runOn_eq {a : Account} (hs : a.homeServer = .text server)
    (ho : a.isOpen = true) (c : Call) : c.runOn a = c.run server := by
  obtain ⟨user, homeServer, isOpen⟩ := a
  dsimp only at hs ho
  subst hs ho
  cases c <;> rfl

namespace Client

/-- A call on the store of a client. -/
def call (c : Call) : Action (Visit ν) Reply := onStore .assertion c.runOn

/-- Close the client, and open the store at a path anew. -/
def reopen (path : Path) (user : Value) : Action (Visit ν) Unit := do
  close
  let v ← getState
  let client ← within Visit.host (fun host v => { v with host })
    (openLocal v.client.settings path user)
  let w ← getState
  setState { w with client }

/-- The visit after the client put a store back on its shelf. -/
def shelved (account : Account) (shelf : Shelf) (s : Store) (v : Visit ν) : Visit ν :=
  let (host, shelf) := shelf.keep v.host s.saved
  { host := { host with clock := s.clock, nextRoom := s.nextRoom }
    client := { v.client with backend := .store account shelf s.pending } }

/-- A call takes the store from the shelf and puts it back. -/
theorem outcome_call {user : Value} {shelf : Shelf}
    (hb : v.client.backend = .store ⟨user, .text server, true⟩ shelf s.pending)
    (hsaved : shelf.tables v.host = s.saved) (hclock : v.host.clock = s.clock)
    (hnext : v.host.nextRoom = s.nextRoom) (c : Call) : (call c).outcome v =
      (c.reply server s, shelved ⟨user, .text server, true⟩ shelf (c.next server s) v) := by
  have hstore : (⟨shelf.tables v.host, s.pending, v.host.clock, v.host.nextRoom⟩ : Store) = s := by
    rw [hsaved, hclock, hnext]
  have hrun : c.runOn ⟨user, .text server, true⟩ = c.run server := Call.runOn_eq rfl rfl c
  rw [call, onStore, outcome_ofOutcome]
  simp only [hb, hrun, hstore]
  rfl

end Client

/-! ### Stores in memory and on disk -/

/-- The client acts on this store in memory. -/
structure InMemory (server : String) (s : Store) (v : Visit ν) : Prop where
  backend : ∃ user, v.client.backend =
    .store ⟨user, .text server, true⟩ (.memory s.saved) s.pending
  clock : v.host.clock = s.clock
  nextRoom : v.host.nextRoom = s.nextRoom

/-- The client acts on this store in a directory, where it is found. -/
structure OnDisk (server : String) (path : Path) (file : List String) (s : Store) (v : Visit ν) :
    Prop where
  backend : ∃ user, v.client.backend =
    .store ⟨user, .text server, true⟩ (.directory path file) s.pending
  found : IsFound v.host.tree v.host.directory path ⟨.text server, file⟩
  saved : v.host.tree.node? file = some (.store s.saved)
  clock : v.host.clock = s.clock
  nextRoom : v.host.nextRoom = s.nextRoom

theorem InMemory.call (h : InMemory server s v) (c : Call) :
    ∃ v', (Client.call c).outcome v = (c.reply server s, v') ∧
      InMemory server (c.next server s) v' := by
  obtain ⟨user, hb⟩ := h.backend
  exact ⟨_, Client.outcome_call hb rfl h.clock h.nextRoom c, ⟨user, rfl⟩, rfl, rfl⟩

namespace OnDisk

variable {path : Path} {file : List String}

theorem call (h : OnDisk server path file s v) (c : Call) :
    ∃ v', (Client.call c).outcome v = (c.reply server s, v') ∧
      OnDisk server path file (c.next server s) v' := by
  obtain ⟨user, hb⟩ := h.backend
  have hsaved : (Shelf.directory path file).tables v.host = s.saved := by
    simp only [Shelf.tables, h.saved]
  refine ⟨_, Client.outcome_call hb hsaved h.clock h.nextRoom c, ⟨user, rfl⟩, ?_, ?_, rfl, rfl⟩
  · exact h.found.put _
  · exact Tree.node?_put_self h.found.file_ne_root

/-- **Closing and opening again loses what is not committed, and nothing else.** -/
theorem reopen (h : OnDisk server path file s v) (user : Value) :
    ∃ v', (Client.reopen path user).outcome v = (.ok (), v') ∧
      OnDisk server path file s.reopen v' := by
  let closed : Visit ν := { v with client := v.client.closed }
  have hclose : Client.close.outcome v = (.ok (), closed) := rfl
  have hl : (Client.openLocal closed.client.settings path user).outcome closed.host =
      (.ok (Client.ofOpened closed.client.settings path user ⟨.text server, file⟩), closed.host) :=
    outcome_bind_ok (h.found.outcome_openOrMake false .null)
  have hopen : (within Visit.host (fun host v => { v with host })
      (Client.openLocal closed.client.settings path user)).outcome closed =
      (.ok (Client.ofOpened closed.client.settings path user ⟨.text server, file⟩), closed) := by
    rw [outcome_within, hl]
  refine ⟨⟨v.host, Client.ofOpened closed.client.settings path user ⟨.text server, file⟩⟩, ?_,
    ⟨user, rfl⟩, h.found, h.saved, h.clock, h.nextRoom⟩
  rw [Client.reopen, outcome_bind_ok hclose, outcome_bind_ok (outcome_getState closed),
    outcome_bind_ok hopen]
  rfl

end OnDisk

/-! ### Runs -/

/-- A step of a run: a call, or the store is closed and opened again. -/
inductive Step where
  | call (c : Call)
  | reopen (user : Value)
deriving DecidableEq, Repr

/-- A step on a store at a path. -/
def Step.run (path : Path) : Step → Action (Visit ν) (Option Reply)
  | .call c => return some (← Client.call c)
  | .reopen user => do Client.reopen path user; return none

/-- A step on a store that is never closed. -/
def Step.stay : Step → Action (Visit ν) (Option Reply)
  | .call c => return some (← Client.call c)
  | .reopen _ => return none

/-- Does an account ask for a chat with itself in this step? -/
def Step.isOwnChat (server : String) : Step → Bool
  | .call c => c.isOwnChat server
  | .reopen _ => false

/-- Both clients act on one sound store with nothing uncommitted, in a directory and in memory. -/
def SameStore {μ : Type} (server : String) (path : Path) (file : List String) (v : Visit ν)
    (w : Visit μ) : Prop :=
  ∃ s : Store, s.Sound server ∧ s.pending = none ∧ OnDisk server path file s v ∧
    InMemory server s w

theorem paired_run {μ : Type} {path : Path} {file : List String} {x : Step}
    (hx : x.isOwnChat server = false) :
    Paired (SameStore (ν := ν) (μ := μ) server path file) Eq (Step.run path x) (Step.stay x) := by
  rintro v w ⟨s, h, hpending, hv, hw⟩
  cases x with
  | call c =>
    obtain ⟨v', hov, hv'⟩ := hv.call c
    obtain ⟨w', how, hw'⟩ := hw.call c
    have hnext := (effect_call h.live c).pending hx hpending
    have hrun : (Step.run path (.call c)).outcome v = ((c.reply server s).map some, v') :=
      outcome_bind_pure _ hov
    have hstay : (Step.stay (.call c)).outcome w = ((c.reply server s).map some, w') :=
      outcome_bind_pure _ how
    rw [hrun, hstay]
    exact ⟨matched_refl _, _, h.next c, hnext, hv', hw'⟩
  | reopen user =>
    obtain ⟨v', hov, hv'⟩ := hv.reopen user
    have hs : s.reopen = s := by
      rw [Store.reopen, ← hpending]
    rw [hs] at hv'
    have hrun : (Step.run path (.reopen user)).outcome v = (.ok none, v') :=
      outcome_bind_ok hov
    have hstay : (Step.stay (.reopen user)).outcome w = (.ok none, w) := rfl
    rw [hrun, hstay]
    exact ⟨.ok rfl, s, h, hpending, hv', hw⟩

/-- **Nothing that was answered is lost by reopening.** A store in a directory that was just made,
or found without rows, and a store in memory have the same home server, clock and next room.  Every
sequence of calls, in which nobody makes a chat with themselves, has the same replies on both, while
the first is closed and opened again at will and the second never is.  Of the documents, it is
assumed that the one with the home server is read as it was written. -/
theorem reopening_unseen {μ : Type} {server : String} {path : Path} {createIfMissing : Bool}
    {homeServer : Value} {opened : Opened} {host host' : Host ν} {memory : Host μ}
    (settings : Settings) {settings' : Settings} (user : Value)
    (hopened : (openOrMake path createIfMissing homeServer).outcome host = (.ok opened, host'))
    (hserver : opened.homeServer = .text server)
    (hyaml : Yaml.read (configText server) = .ok (.map [(.text "home_server", .text server)]))
    (hempty : host'.tree.node? opened.file = some (.store {}))
    (hmemory : (Client.memory settings').account?.map (·.homeServer) = some (.text server))
    (hclock : memory.clock = host'.clock) (hnext : memory.nextRoom = host'.nextRoom)
    (steps : List Step) (hown : ∀ x ∈ steps, x.isOwnChat server = false) :
    log (Step.run path) ⟨host', Client.ofOpened settings path user opened⟩ steps =
      log Step.stay ⟨memory, Client.memory settings'⟩ steps := by
  have hfound := isFound_openOrMake hserver hyaml hopened
  obtain ⟨homeServer', file⟩ := opened
  dsimp only at hserver
  subst hserver
  have hdisk : OnDisk server path file (empty host'.clock host'.nextRoom)
      ⟨host', Client.ofOpened settings path user ⟨.text server, file⟩⟩ :=
    ⟨⟨user, rfl⟩, hfound, hempty, rfl, rfl⟩
  have hin : InMemory server (empty host'.clock host'.nextRoom)
      ⟨memory, Client.memory settings'⟩ := by
    refine ⟨⟨settings'.options.user, ?_⟩, hclock, hnext⟩
    have hs : (if settings'.options.homeServer.isEmpty then .text defaultHomeServer
        else settings'.options.homeServer) = .text server := Option.some.inj hmemory
    simp only [Client.memory, hs]
    rfl
  have hsame : SameStore server path file _ _ := ⟨_, sound_empty server _ _, rfl, hdisk, hin⟩
  exact (log_eq_of_paired hsame steps fun x hx => paired_run (hown x hx)).1

/-- The chat gets its room, and Alice's block list is found again. -/
theorem reopening_unseen_chat :
    let path : Path := ⟨"/", ["chats"]⟩
    let host : Host Unit := { server := () }
    let host' := ((openOrMake path true .null).outcome host).2
    let opened : Opened := ⟨.text "localhost", ["chats", "data.db"]⟩
    let settings : Settings := ⟨{}, .memory⟩
    let steps : List Step := [.call (.register "alice" none), .reopen .null,
      .call (.register "bob" none), .reopen (.text "@alice:localhost"),
      .call (.perform (some "@alice:localhost") (.create "bob")), .reopen .null,
      .call (.perform (some "@alice:localhost") (.block "bob")), .reopen .null,
      .call (.perform (some "@alice:localhost") .blocked)]
    ((openOrMake path true .null).outcome host).1 = .ok opened ∧
      log (Step.run path) ⟨host', Client.ofOpened settings path .null opened⟩ steps =
        [.ok (some (.registered "@alice:localhost")), .ok none,
          .ok (some (.registered "@bob:localhost")), .ok none,
          .ok (some (.answered (.chat (.text "!room1:localhost")))), .ok none,
          .ok (some (.answered .done)), .ok none,
          .ok (some (.answered (.accounts [.text "@bob:localhost"])))] := by
  intro path host host' opened settings steps
  have hmade : ((openOrMake path true .null).outcome host).1 = .ok opened := by decide +kernel
  have hempty : host'.tree.node? opened.file = some (.store {}) := by decide +kernel
  have hclock : host.clock = host'.clock := by decide +kernel
  have hnext : host.nextRoom = host'.nextRoom := by decide +kernel
  have hown : ∀ x ∈ steps, x.isOwnChat "localhost" = false := by decide
  have hmemory : (Client.memory settings).account?.map (·.homeServer) =
      some (.text "localhost") := rfl
  have h := reopening_unseen settings .null (Prod.ext hmade rfl) rfl (by decide +kernel) hempty
    hmemory hclock hnext steps hown
  exact ⟨hmade, h.trans (by decide +kernel)⟩

end PairChat
