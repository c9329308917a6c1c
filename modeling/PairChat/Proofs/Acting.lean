import PairChat.Store.Account
import PairChat.Proofs.Statements

/-!
# Acting on a store: the operations of a provider

The accounts of a store share the connection and the name of the home server; `Account.acting` is
one of them, or nobody.  The outcome of each of its operations is given by the tables that are read:

* reading leaves the store as it is (`outcome_rooms`, `outcome_registry`, `outcome_room?`,
  `outcome_members?`);
* `leave` and `join` put a record in the place of the one that the account has, and are refused
  where it has none (`outcome_leave`, `outcome_join`);
* the registry is written only where it changes (`Store.registered`, `outcome_updateRegistry`).

Nobody reads or writes anything, and neither does an account whose name, or another text that is
bound before it, cannot be encoded: `sessionIn` is the name of the account that acts, or why there
is none (`sessionIn_eq_ok_iff`).
-/

namespace PairChat.Store

open PairChat.Action

variable {s : Store}

/-! ### What the operations leave -/

/-- The store after an account left a room. -/
def leftRoom (s : Store) (me room : String) : Store :=
  s.wrote (s.live.withRecord (s.record room me Membership.left.wire))

/-- The store after an account joined a room. -/
def joinedRoom (s : Store) (me room : String) : Store :=
  s.wrote (s.live.withRecord (s.record room me Membership.joined.wire))

/-- The store after the registry of an account was changed, and written if that changed anything. -/
def registered (s : Store) (me : String) (r : Registry String × Bool) : Store :=
  if r.2 then s.wrote (s.live.withDocument ⟨me, registryType, r.1.toContent .text⟩) else s

@[simp] theorem live_leftRoom (me room : String) : (s.leftRoom me room).live =
    s.live.withRecord (s.record room me Membership.left.wire) := rfl

@[simp] theorem live_joinedRoom (me room : String) : (s.joinedRoom me room).live =
    s.live.withRecord (s.record room me Membership.joined.wire) := rfl

namespace Account

/-- An account of a store on a home server, or nobody. -/
def acting (server : String) (user : Option String) : Account where
  user := .ofText? user
  homeServer := .text server

variable {server me : String}

theorem spelled_homeServer (user : Option String) :
    (acting server user).homeServer.spelled = .ok server := by
  simp [acting, Value.spelled, Value.fits, Value.scalarFits, Value.plain, Value.content,
    Scalar.plain]

theorem outcome_connected (user : Option String) :
    (acting server user).connected.outcome s = (.ok (), s) := rfl

/-! ### Who acts -/

theorem outcome_chosen (hme : me ≠ "") :
    (acting server (some me)).chosen.outcome s = (.ok (), s) := by
  have he : (Value.ofText? (some me)).isEmpty = false := by
    simpa [Value.ofText?, Value.isEmpty, Scalar.isEmpty] using hme
  simp [chosen, acting, he, connected]

/-- The rejection of a request that needs an account. -/
def noAccountSelected : Failure := .rejected (.ofTexts 401 "M_MISSING_TOKEN" "No account selected")

/-- **The name of the account that acts**, as it is bound after some texts. -/
def sessionIn (user : Option String) (texts : List String) : Except Failure String :=
  match user with
  | none => .error noAccountSelected
  | some me =>
    if me = "" then .error noAccountSelected else (bound (texts ++ [me])).map fun _ => me

theorem outcome_session_eq (user : Option String) (texts : List String) :
    ((acting server user).session texts).outcome s = (sessionIn user texts, s) := by
  rcases user with _ | me
  · rfl
  · unfold sessionIn
    dsimp only
    split_ifs with hme
    · subst hme
      rfl
    · have hkey : key (acting server (some me)).user = (bound [me]).map fun _ => me := rfl
      rw [session, outcome_bind_ok (outcome_chosen hme), bound_append, hkey]
      rcases hb : bound texts with e | _ <;> simp [outcome_bind] <;> rfl

/-- **The name of somebody**: it is not empty, and it can be encoded. -/
structure IsName (me : String) : Prop where
  ne_empty : me ≠ ""
  isEncodable : Text.isEncodable me

/-- Whoever acts has a name, and the texts can be bound. -/
theorem sessionIn_eq_ok_iff {user : Option String} {texts : List String} :
    sessionIn user texts = .ok me ↔ user = some me ∧ IsName me ∧ bound texts = .ok () := by
  rcases user with _ | name
  · simp [sessionIn]
  · constructor
    · intro h
      unfold sessionIn at h
      dsimp only at h
      split_ifs at h with hname
      rcases hb : bound (texts ++ [name]) with e | _ <;> rw [hb] at h <;> cases h
      rw [bound_eq_ok_iff, List.forall_mem_append] at hb
      exact ⟨rfl, ⟨hname, hb.2 name (List.mem_singleton_self name)⟩, bound_eq_ok_iff.mpr hb.1⟩
    · rintro ⟨he, hme, hb⟩
      obtain rfl := Option.some.inj he
      simp only [sessionIn, if_neg hme.ne_empty, bound_append, hb, bound_singleton hme.isEncodable]
      rfl

theorem outcome_session (hme : IsName me) {texts : List String} (hb : bound texts = .ok ()) :
    ((acting server (some me)).session texts).outcome s = (.ok me, s) := by
  rw [outcome_session_eq, sessionIn_eq_ok_iff.mpr ⟨rfl, hme, hb⟩]

/-! ### Provisioning -/

/-- The name that an account is registered with. -/
def shownName (handle : String) (name : Option String) : String :=
  match name with
  | some name => if name.isEmpty then handle else name
  | none => handle

theorem shownName_ne_empty {handle : String} (h : handle ≠ "") (name : Option String) :
    shownName handle name ≠ "" := by
  rcases name with _ | name
  · exact h
  · unfold shownName
    dsimp only
    split_ifs with he
    · exact h
    · simpa using he

section Register
variable {handle : String} (user name : Option String)

/-- The rejection of a registration. -/
def notRegistered (message : String) : Failure := .rejected (.ofTexts 400 "M_USER_IN_USE" message)

theorem outcome_register_fault {fault : HandleFault} (hh : Handle.fault? handle = some fault) :
    ((acting server user).register handle name).outcome s = (.error (.badHandle fault), s) := by
  have hcheck : Handle.check handle = .error (.badHandle fault) := by simp [Handle.check, hh]
  simp only [Account.register, outcome_bind, outcome_lift, hcheck]

variable (hh : Handle.fault? handle = none)
include hh

/-- Registering comes down to a row of a user, and a failure to write it is a rejection. -/
theorem outcome_register_eq : ((acting server user).register handle name).outcome s =
    (recover (createUser (some (UserId.qualify handle server)) (some (shownName handle name)))
      (rejectRow 400 "M_USER_IN_USE") >>= fun _ => pure (UserId.qualify handle server)).outcome
        s := by
  have hcheck : Handle.check handle = .ok handle := by simp [Handle.check, hh]
  rcases name with _ | name <;>
    simp only [Account.register, outcome_bind, outcome_lift, hcheck, spelled_homeServer,
      outcome_connected, shownName]

/-- An identifier that cannot be encoded is refused, and so is one that is taken. -/
theorem outcome_register_unencodable
    (hid : Text.isEncodable (UserId.qualify handle server) = false) :
    ((acting server user).register handle name).outcome s =
      (.error (notRegistered (Text.encodingFault (UserId.qualify handle server))), s) := by
  rw [outcome_register_eq user name hh]
  simp only [outcome_bind, outcome_recover, outcome_createUser_unencodable hid, rejectRow,
    notRegistered]

variable (hid : Text.isEncodable (UserId.qualify handle server))
include hid

theorem outcome_register_taken (hu : (s.live.user? (UserId.qualify handle server)).isSome) :
    ((acting server user).register handle name).outcome s =
      (.error (notRegistered (RowFault.userExists (UserId.qualify handle server)).message), s) := by
  rw [outcome_register_eq user name hh]
  simp only [outcome_bind, outcome_recover, outcome_createUser_taken hid hu, rejectRow,
    notRegistered]

variable (hfree : s.live.user? (UserId.qualify handle server) = none)
include hfree

theorem outcome_register (hname : Text.isEncodable (shownName handle name)) :
    ((acting server user).register handle name).outcome s =
      (.ok (UserId.qualify handle server), s.wrote (s.live.withUser
        ⟨some (UserId.qualify handle server), some (shownName handle name), s.clock⟩)) := by
  rw [outcome_register_eq user name hh]
  simp only [outcome_bind, outcome_recover, outcome_createUser hid hname hfree, outcome_pure]

/-- A name that cannot be encoded is refused after an instant was taken. -/
theorem outcome_register_unnamed (hname : Text.isEncodable (shownName handle name) = false) :
    ((acting server user).register handle name).outcome s =
      (.error (notRegistered (Text.encodingFault (shownName handle name))),
        { s with clock := s.clock + 1 }) := by
  rw [outcome_register_eq user name hh]
  simp only [outcome_bind, outcome_recover, outcome_createUser_unnamed hid hname hfree, rejectRow,
    notRegistered]

end Register

/-! ### Documents -/

theorem outcome_updateRegistry (hme : IsName me)
    {f : Registry String → Except Failure (Registry String × Bool)} {reg : Option (Registry String)}
    {r : Registry String × Bool} (hreg : registryIn me s.live = .ok reg)
    (hf : f (reg.getD []) = .ok r) (hu : (s.live.user? me).isSome) :
    (updateRegistry me f).outcome s = (.ok (), s.registered me r) := by
  simp only [updateRegistry, outcome_bind, outcome_query, outcome_lift, hreg, hf, registered]
  split_ifs
  · exact outcome_setDocument hme.isEncodable (by decide) _ hu
  · rfl

/-- The block list of an account, as it is read. -/
def blockListIn (me : String) (t : Tables) : Except Failure BlockList :=
  t.document me blockListType >>= BlockList.ofContent

/-! ### Reading -/

section Acting
variable (hme : IsName me)
include hme

theorem outcome_rooms :
    (acting server (some me)).provider.rooms.outcome s = (.ok (roomsIn me s.live), s) := by
  simp only [provider, outcome_bind_ok (outcome_session hme bound_nil), outcome_query]

theorem outcome_registry :
    (acting server (some me)).provider.registry?.outcome s = (registryIn me s.live, s) := by
  simp only [provider, outcome_bind_ok (outcome_session hme bound_nil),
    outcome_bind_ok (outcome_query _), outcome_lift]

section Room
variable {room : String} (hroom : Text.isEncodable room)
include hroom

theorem outcome_room? : ((acting server (some me)).provider.room? room).outcome s =
    (.ok ((s.live.member? room me).bind fun r => roomIn room r.membership s.live), s) := by
  simp only [provider, Account.room?,
    outcome_bind_ok (outcome_session hme (bound_singleton hroom)), outcome_query]

/-- The members of a room that exists and that the account has a record in. -/
theorem outcome_members? (hexists : (s.live.room? room).isSome)
    (hmember : (s.live.member? room me).isSome) :
    ((acting server (some me)).provider.members? room).outcome s =
      (.ok (some (membersIn room s.live)), s) := by
  have hr : (s.live.room? room).isNone = false := Option.isNone_eq_false_iff.mpr hexists
  have hm : (s.live.member? room me).isNone = false := Option.isNone_eq_false_iff.mpr hmember
  have hb := bound_singleton hroom
  simp only [provider, Account.members?, outcome_bind_ok (outcome_chosen hme.ne_empty),
    outcome_bind_ok (outcome_lookUp _ hb), outcome_bind_ok (outcome_session hme hb), outcome_bind,
    outcome_query, hr, hm, Bool.false_eq_true, if_false, outcome_pure]

end Room

/-! ### Records -/

/-- A record of the account can be written in a room that it has a record in. -/
theorem bound_ownRecord (hv : s.live.Valid) {room word : String}
    (h : (s.live.member? room me).isSome) (hword : Text.isEncodable word) :
    bound (s.record room me word).texts = .ok () :=
  hv.bound_record (hv.isEncodable_of_room? (hv.room?_isSome_of_member? h)) hme.isEncodable hword

theorem outcome_leave {room : String}
    (hb : bound (s.record room me Membership.left.wire).texts = .ok ())
    (h : (s.live.member? room me).isSome) :
    ((acting server (some me)).provider.leave room).outcome s = (.ok (), s.leftRoom me room) := by
  have hroom : Text.isEncodable room := bound_eq_ok_iff.mp hb room List.mem_cons_self
  simp only [provider, Account.leave,
    outcome_bind_ok (outcome_session hme (bound_singleton hroom)), outcome_bind, outcome_query, h,
    if_true, outcome_setMembership hb h, outcome_pure]
  rfl

/-- The rejection of an account that may not join a room. -/
def notInvited (me room : String) : Failure :=
  .rejected (.ofTexts 403 "M_FORBIDDEN" (me ++ " is not invited to " ++ room))

/-- May an account with this record join the room again? -/
def MayJoin (r : MemberRow) : Prop :=
  r.membership = Membership.invited.wire ∨ r.membership = Membership.joined.wire

theorem outcome_join (hv : s.live.Valid) {room user : String} {r : MemberRow}
    {reg : Option (Registry String)} (hr : s.live.member? room me = some r) (hmay : MayJoin r)
    (hreg : registryIn me s.live = .ok reg) :
    ((acting server (some me)).provider.join (.text user) room).outcome s =
      (.ok (), (s.joinedRoom me room).registered me ((reg.getD []).addJoined user room)) := by
  have hold : (s.live.member? room me).isSome := by rw [hr]; rfl
  have hroom := hv.isEncodable_of_room? (hv.room?_isSome_of_member? hold)
  have hb : bound (s.record room me Membership.joined.wire).texts = .ok () :=
    bound_ownRecord hme hv hold (by decide)
  have hset := outcome_setMembership hb hold
  have hmay' : (s.live.member? room me).any (fun r =>
      r.membership == Membership.invited.wire || r.membership == Membership.joined.wire) := by
    simpa [hr, MayJoin] using hmay
  have hupd := outcome_updateRegistry (s := s.joinedRoom me room) hme
    (f := (·.addJoinedOf (.text user) room)) hreg rfl (hv.user?_isSome_of_member? hold)
  simp only [provider, Account.join,
    outcome_bind_ok (outcome_session hme (bound_singleton hroom)), outcome_bind, outcome_query,
    hmay', if_true, hset]
  exact hupd

theorem outcome_join_refused {room : String} (hroom : Text.isEncodable room) {user : Value}
    (h : ∀ r, s.live.member? room me = some r → ¬ MayJoin r) :
    ((acting server (some me)).provider.join user room).outcome s =
      (.error (notInvited me room), s) := by
  have hmay' : (s.live.member? room me).any (fun r => r.membership == Membership.invited.wire ||
      r.membership == Membership.joined.wire) = false := by
    rcases hr : s.live.member? room me with _ | r
    · rfl
    · simpa [MayJoin] using h r hr
  simp only [provider, Account.join,
    outcome_bind_ok (outcome_session hme (bound_singleton hroom)), outcome_bind, outcome_query,
    hmay', Bool.false_eq_true, if_false, outcome_throw, notInvited]
  rfl

/-! ### Rooms -/

/-- Making a chat comes down to making a room, and to listing it. -/
theorem outcome_create_eq (user : String) :
    ((acting server (some me)).provider.create user).outcome s =
      (recover (createRoom (some me) server [some user] (some true))
          (rejectRow 404 Rejection.notFoundCode) >>= fun room =>
        updateRegistry me (·.addCreatedOf (.text me) room.id) >>= fun _ =>
        pure (.text room.id)).outcome s := by
  have hmake : (recover (do
      let me ← (acting server (some me)).session []
      return (me, ← createRoom (some me) server [some user] (some true)))
        (rejectRow 404 Rejection.notFoundCode)).outcome s =
      (recover (createRoom (some me) server [some user] (some true))
        (rejectRow 404 Rejection.notFoundCode) >>= fun room => pure (me, room)).outcome s := by
    rw [outcome_recover, outcome_bind_ok (outcome_session hme bound_nil), outcome_bind,
      outcome_bind, outcome_recover]
    rcases (createRoom (some me) server [some user] (some true)).outcome s with ⟨e | room, t⟩
    · cases e <;> rfl
    · rfl
  simp only [provider, Account.create, outcome_bind_ok (outcome_chosen hme.ne_empty),
    spelled_homeServer, outcome_bind, outcome_lift]
  rw [hmake, outcome_bind]
  rcases (recover (createRoom (some me) server [some user] (some true)) _).outcome s with
    ⟨e | room, t⟩ <;> rfl

theorem outcome_create_unknown (user : String) (h : s.live.user? me = none) :
    ((acting server (some me)).provider.create user).outcome s =
      (.error (.rejected (.ofTexts 404 Rejection.notFoundCode (RowFault.noCreator me).message)),
        s) := by
  have hc := outcome_createRoom_unknown server [some user] (some true) h
  rw [unknown, if_pos hme.isEncodable] at hc
  rw [outcome_create_eq hme]
  simp only [outcome_bind, outcome_recover, hc, rejectRow]

section Made
variable (hv : s.live.Valid) {u : UserRow} (hu : s.live.user? me = some u)
  (hserver : Text.isEncodable server)
  (hroom : s.live.room? (roomName server s.nextRoom) = none)
include hv hu hserver hroom

theorem outcome_create {user : String} {v : UserRow} {reg : Option (Registry String)}
    (huser : s.live.user? user = some v) (hne : me ≠ user) (hreg : registryIn me s.live = .ok reg) :
    ((acting server (some me)).provider.create user).outcome s =
      (.ok (.text (roomName server s.nextRoom)),
        (s.madeRoom server me user).registered me
          ((reg.getD []).addCreated me (roomName server s.nextRoom))) := by
  have hc := outcome_createRoom hv hu huser hserver hroom hne
  have hupd := outcome_updateRegistry (s := s.madeRoom server me user) hme
    (f := (·.addCreatedOf (.text me) (roomName server s.nextRoom))) hreg rfl (by
      rw [live_madeRoom, Tables.user?_withRoom, hu]
      rfl)
  rw [outcome_create_eq hme]
  simp only [outcome_bind, outcome_recover, hc, newRoom, hupd, outcome_pure]

theorem outcome_create_self :
    ((acting server (some me)).provider.create me).outcome s =
      (.error .constraint, s.begunRoom server me) := by
  have hc := outcome_createRoom_self hv hu hserver hroom
  rw [outcome_create_eq hme]
  simp only [outcome_bind, outcome_recover, hc, rejectRow]

end Made

/-! ### The block list -/

theorem outcome_blockList :
    (acting server (some me)).blockList.outcome s = (blockListIn me s.live, s) := by
  simp only [Account.blockList, outcome_bind_ok (outcome_session hme bound_nil), outcome_bind,
    outcome_query, outcome_lift, blockListIn]

theorem outcome_setBlockList (blocked : BlockList) (hu : (s.live.user? me).isSome) :
    ((acting server (some me)).setBlockList blocked).outcome s =
      (.ok (), s.wrote (s.live.withDocument ⟨me, blockListType, blocked.toContent⟩)) := by
  rw [Account.setBlockList, outcome_bind_ok (outcome_session hme bound_nil)]
  exact outcome_setDocument hme.isEncodable (by decide) _ hu

theorem outcome_setBlockList_unknown (blocked : BlockList) (hu : s.live.user? me = none) :
    ((acting server (some me)).setBlockList blocked).outcome s =
      (.error .constraint, { s with clock := s.clock + 1 }) := by
  rw [Account.setBlockList, outcome_bind_ok (outcome_session hme bound_nil)]
  exact outcome_setDocument_unknown hme.isEncodable (by decide) _ hu

end Acting

end Account

end PairChat.Store
