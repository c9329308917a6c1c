import PairChat.Lifecycle
import PairChat.Proofs.Coherence
import PairChat.Proofs.Resolution

/-!
# Chats on a store: what the operations answer and leave

Where the tables are sound, the life of a chat is decided by records and listings alone.

* `Tables.Stands`: how a user stands to a room; `Tables.IsActive`: the user holds the room open.
* `Tables.IsHeld`: an account lists a room that somebody holds open.  That is when a chat exists
  (`outcome_hasChat_sound`), so a chat is made exactly where the counterparty is not held
  (`outcome_create_held`, `outcome_create_made`, `outcome_create_begun`).
* An account accepts the invitations that it has and the rooms that it is in
  (`outcome_accept`), and leaves every room that it has a record in (`outcome_decline`).
-/

namespace PairChat.Store

open PairChat.Action Account

/-! ### Standing to a room -/

namespace Tables

variable {t : Tables} {server : String} {clock next : Nat}

/-- How a user stands to a room. -/
def Stands (t : Tables) (room user : String) (w : Membership) : Prop :=
  ∃ m, t.member? room user = some m ∧ m.membership = w.wire

/-- The user has joined the room or is invited to it. -/
def IsActive (t : Tables) (room user : String) : Prop :=
  t.Stands room user .joined ∨ t.Stands room user .invited

/-- A room that the account lists is held open by the user. -/
def IsHeld (t : Tables) (me user : String) : Prop := ∃ room ∈ t.listing me, t.IsActive room user

instance (t : Tables) (room user : String) (w : Membership) : Decidable (t.Stands room user w) :=
  decidable_of_iff ((t.member? room user).any (·.membership == w.wire))
    (by simp [Stands, Option.any_eq_true])

instance (t : Tables) (room user : String) : Decidable (t.IsActive room user) :=
  inferInstanceAs (Decidable (_ ∨ _))

instance (t : Tables) (me user : String) : Decidable (t.IsHeld me user) :=
  inferInstanceAs (Decidable (∃ room ∈ _, _))

/-- The rooms that a user is invited to, in their order. -/
def invitedRooms (t : Tables) (user : String) : List RoomRow :=
  t.rooms.filter fun row => t.Stands row.id user .invited

theorem Stands.unique {room user : String} {v w : Membership} (hv : t.Stands room user v)
    (hw : t.Stands room user w) : v = w := by
  obtain ⟨m, hm, hmv⟩ := hv
  obtain ⟨m', hm', hmw⟩ := hw
  obtain rfl := Option.some.inj (hm.symm.trans hm')
  exact Membership.wire_injective (hmv.symm.trans hmw)

theorem Stands.isSome {room user : String} {w : Membership} (h : t.Stands room user w) :
    (t.member? room user).isSome := by
  obtain ⟨m, hm, -⟩ := h
  rw [hm]
  rfl

theorem IsActive.isSome {room user : String} (h : t.IsActive room user) :
    (t.member? room user).isSome := by
  rcases h with hw | hw <;> exact hw.isSome

/-- A record stands for one of three memberships. -/
theorem Coherent.stands (h : Coherent server clock next t) {room user : String}
    (hm : (t.member? room user).isSome) :
    t.Stands room user .invited ∨ t.Stands room user .joined ∨ t.Stands room user .left := by
  obtain ⟨m, hm⟩ := Option.isSome_iff_exists.mp hm
  rcases h.word m (of_member?_eq_some hm).1 with hw | hw | hw
  · exact Or.inl ⟨m, hm, hw⟩
  · exact Or.inr (Or.inl ⟨m, hm, hw⟩)
  · exact Or.inr (Or.inr ⟨m, hm, hw⟩)

theorem Coherent.exists_stands (h : Coherent server clock next t) {room user : String}
    (hm : (t.member? room user).isSome) : ∃ w, t.Stands room user w := by
  rcases h.stands hm with hw | hw | hw <;> exact ⟨_, hw⟩

theorem Coherent.isActive_or_left (h : Coherent server clock next t) {room user : String}
    (hm : (t.member? room user).isSome) : t.IsActive room user ∨ t.Stands room user .left := by
  rcases h.stands hm with hi | hj | hl
  · exact Or.inl (Or.inr hi)
  · exact Or.inl (Or.inl hj)
  · exact Or.inr hl

/-- The row of a room that somebody has a record in. -/
theorem Coherent.exists_room (h : Coherent server clock next t) {room user : String}
    (hm : (t.member? room user).isSome) : ∃ r ∈ t.rooms, r.id = room :=
  room?_isSome_iff.mp (h.valid.room?_isSome_of_member? hm)

end Tables

/-- Whoever leaves a room has left it. -/
theorem stands_leftRoom {s : Store} {me room : String} (hm : (s.live.member? room me).isSome) :
    (s.leftRoom me room).live.Stands room me .left :=
  ⟨_, Tables.member?_withRecord_self hm, rfl⟩

namespace Account

variable {s : Store} {t : Tables} {server me user : String} {clock next : Nat}

/-! ### Seen rooms and their members -/

theorem mem_roomsIn_of_stands {room : String} {w : Membership} (hv : t.Valid)
    (h : t.Stands room me w) : ⟨room, w, membersIn room t⟩ ∈ roomsIn me t := by
  obtain ⟨row, hrow, rfl⟩ := Tables.room?_isSome_iff.mp (hv.room?_isSome_of_member? h.isSome)
  obtain ⟨m, hm, hw⟩ := h
  exact mem_roomsIn.mpr ⟨row, hrow, m, w, hm, hw ▸ Membership.ofWire?_wire w, rfl⟩

theorem stands_of_mem_roomsIn {x : Room} (h : x ∈ roomsIn me t) :
    t.Stands x.id me x.membership := by
  obtain ⟨row, -, r, m, hr, hm, rfl⟩ := mem_roomsIn.mp h
  exact ⟨r, hr, (Membership.ofWire?_eq_some_iff.mp hm).symm⟩

theorem exists_member_iff (hv : t.Valid) {room : String} {w : Membership} :
    (∃ x ∈ membersIn room t, x.userId = user ∧ x.membership = w) ↔ t.Stands room user w := by
  constructor
  · rintro ⟨x, hx, rfl, rfl⟩
    obtain ⟨r, hr, hxr⟩ := (mem_membersIn hv).mp hx
    obtain ⟨hw, he⟩ := memberOfRow_eq_some_iff.mp hxr
    rw [he]
    exact ⟨r, hr, hw.symm⟩
  · rintro ⟨r, hr, hw⟩
    obtain ⟨-, -, rfl⟩ := Tables.of_member?_eq_some hr
    have hx : memberOfRow r = some ⟨r.userId, w, r.displayName, r.isDirect⟩ :=
      memberOfRow_eq_some_iff.mpr ⟨hw.symm, rfl⟩
    exact ⟨_, (mem_membersIn hv).mpr ⟨r, hr, hx⟩, rfl, rfl⟩

theorem holds_iff (hv : t.Valid) {room : String} :
    Resolver.holds user (some (membersIn room t)) ↔ t.IsActive room user := by
  simp only [Resolver.holds, Option.getD_some, List.any_eq_true, Bool.and_eq_true, beq_iff_eq]
  constructor
  · rintro ⟨x, hx, huser, hactive⟩
    have hs := (exists_member_iff hv).mp ⟨x, hx, huser, rfl⟩
    cases hw : x.membership <;> rw [hw] at hactive hs
    · exact Or.inr hs
    · exact Or.inl hs
    all_goals cases hactive
  · rintro (h | h) <;> obtain ⟨x, hx, huser, hw⟩ := (exists_member_iff hv).mpr h
    · exact ⟨x, hx, huser, by rw [hw]; rfl⟩
    · exact ⟨x, hx, huser, by rw [hw]; rfl⟩

/-! ### The existence of a chat -/

theorem isHeld_iff (h : t.Sound server clock next) :
    (((roomsIn me t).filter fun x => (t.listing me).contains x.id).any fun x =>
      Resolver.holds user (some x.members)) ↔ t.IsHeld me user := by
  have hv := h.valid
  simp only [List.any_eq_true, List.mem_filter, List.contains_iff_mem]
  constructor
  · rintro ⟨x, ⟨hx, hl⟩, hh⟩
    rw [members_of_mem_roomsIn hx, holds_iff hv] at hh
    exact ⟨x.id, hl, hh⟩
  · rintro ⟨room, hl, hh⟩
    obtain ⟨m, hm, -⟩ := h.listing_record me room hl
    -- the account has a record in a listed room, so it sees the room
    have hsome : (t.member? room me).isSome := by rw [hm]; rfl
    obtain ⟨w, hw⟩ := h.toCoherent.exists_stands hsome
    exact ⟨_, ⟨mem_roomsIn_of_stands hv hw, hl⟩, (holds_iff hv).mpr hh⟩

theorem outcome_hasChat_sound (user : String) (hme : IsName me)
    (h : s.live.Sound server clock next) :
    ∃ b, (Resolver.hasChat (acting server (some me)).provider user (.text me)).outcome s =
      (.ok b, s) ∧ (b ↔ s.live.IsHeld me user) := by
  obtain ⟨reg, hreg⟩ := (h.hasListing me).exists_registry
  refine ⟨_, outcome_hasChat hme h.valid hme.ne_empty user hreg, ?_⟩
  rw [roomsOf_registry (h.hasListing me) hreg]
  exact isHeld_iff h

/-! ### The counterparty -/

/-- The account of a handle on the home server, if there is one. -/
def counterpartyIn (server handle : String) (purpose : Purpose) (t : Tables) :
    Except Failure String :=
  match Handle.fault? handle with
  | some fault => .error (.badHandle fault)
  | none =>
    if Text.isEncodable (UserId.qualify handle server) then
      if (t.user? (UserId.qualify handle server)).isSome then .ok (UserId.qualify handle server)
      else .error (.unknownHandle purpose)
    else .error (.unencodable (UserId.qualify handle server))

theorem outcome_counterparty (user : Option String) (handle : String) (purpose : Purpose) :
    (Lifecycle.counterparty (acting server user).provider handle purpose).outcome s =
      (counterpartyIn server handle purpose s.live, s) := by
  have hserver : (acting server user).provider.homeServer.outcome s =
    (.ok (acting server user).homeServer, s) := rfl
  have hexists : ((acting server user).provider.userExists
      (UserId.qualify handle server)).outcome s =
      (if Text.isEncodable (UserId.qualify handle server) then
        .ok (s.live.user? (UserId.qualify handle server)).isSome
      else .error (.unencodable (UserId.qualify handle server)), s) := by
    simp only [provider, outcome_bind_ok (outcome_connected user)]
    split_ifs with hid
    · exact outcome_lookUp _ (bound_singleton hid)
    · exact outcome_lookUp_error _ (bound_eq_error [] [] (by simp) (by simpa using hid))
  unfold Lifecycle.counterparty counterpartyIn Handle.check
  rcases Handle.fault? handle with _ | fault
  · simp only [outcome_bind, outcome_lift, hserver, spelled_homeServer, hexists]
    split_ifs with hid hu
    · simp only [hu, if_true, outcome_pure]
    · simp only [hu, Bool.false_eq_true, if_false, outcome_throw]
    · rfl
  · rfl

theorem counterpartyIn_eq_ok_iff {handle : String} {purpose : Purpose} :
    counterpartyIn server handle purpose t = .ok user ↔ Handle.fault? handle = none ∧
      Text.isEncodable user ∧ (t.user? user).isSome ∧ UserId.qualify handle server = user := by
  unfold counterpartyIn
  rcases Handle.fault? handle with _ | fault
  · constructor
    · intro h
      split_ifs at h with hid hu
      obtain rfl := Except.ok.inj h
      exact ⟨rfl, hid, hu, rfl⟩
    · rintro ⟨-, hid, hu, rfl⟩
      rw [if_pos hid, if_pos hu]
  · simp

theorem outcome_owner (hme : me ≠ "") :
    (Lifecycle.owner (acting server (some me)).provider).outcome s = (.ok (.text me), s) := by
  have ha : (acting server (some me)).provider.account.outcome s = (.ok (.text me), s) := rfl
  simp only [Lifecycle.owner, outcome_bind, ha, outcome_lift, knownOwner_text hme]

/-- Why an operation of somebody fails that has an owner first and then fails with `e`. -/
def ownedFailure (user : Option String) (e : Failure) : Failure :=
  if user = none ∨ user = some "" then .noAccount .owner else e

/-- What comes after the owner fails for every account. -/
theorem outcome_owner_bind_error {α : Type} {user : Option String} {e : Failure}
    {f : Value → Action Store α}
    (hf : ∀ me, user = some me → me ≠ "" → (f (.text me)).outcome s = (.error e, s)) :
    (Lifecycle.owner (acting server user).provider >>= f).outcome s =
      (.error (ownedFailure user e), s) := by
  unfold ownedFailure
  split_ifs with hwho
  · rcases hwho with rfl | rfl <;> rfl
  · obtain ⟨hnone, hempty⟩ := not_or.mp hwho
    obtain ⟨me, rfl⟩ := Option.ne_none_iff_exists'.mp hnone
    have hme : me ≠ "" := fun e => hempty (congrArg some e)
    exact (outcome_bind_ok (outcome_owner hme)).trans (hf me rfl hme)

/-! ### Making a chat -/

theorem outcome_create_error {who : Option String} {handle : String} {e : Failure}
    (hc : counterpartyIn server handle .chat s.live = .error e) :
    (Lifecycle.create (acting server who).provider handle).outcome s = (.error e, s) := by
  simp only [Lifecycle.create, outcome_bind, outcome_counterparty, hc]

section Create
variable {handle : String} (hme : IsName me) (h : s.live.Sound server s.clock s.nextRoom)
  (hc : counterpartyIn server handle .chat s.live = .ok user)
include hme h hc

/-- **A chat that exists is not made again.** -/
theorem outcome_create_held (hheld : s.live.IsHeld me user) :
    (Lifecycle.create (acting server (some me)).provider handle).outcome s =
      (.error .chatExists, s) := by
  obtain ⟨b, hb, hiff⟩ := outcome_hasChat_sound user hme h
  simp only [Lifecycle.create, outcome_bind, outcome_counterparty, hc,
    outcome_owner hme.ne_empty, hb, hiff.mpr hheld, if_true, outcome_throw]

/-- Where no chat exists, the rest is up to the provider. -/
theorem outcome_create_unheld (hfree : ¬ s.live.IsHeld me user) :
    (Lifecycle.create (acting server (some me)).provider handle).outcome s =
      ((acting server (some me)).provider.create user).outcome s := by
  obtain ⟨b, hb, hiff⟩ := outcome_hasChat_sound user hme h
  have hb' : b = false := by
    rw [Bool.eq_false_iff]
    exact fun e => hfree (hiff.mp e)
  simp only [Lifecycle.create, outcome_bind, outcome_counterparty, hc,
    outcome_owner hme.ne_empty, hb, hb', Bool.false_eq_true, if_false]

theorem outcome_create_made {u v : UserRow} (hfree : ¬ s.live.IsHeld me user)
    (hu : s.live.user? me = some u) (hv : s.live.user? user = some v) (hne : me ≠ user) :
    (Lifecycle.create (acting server (some me)).provider handle).outcome s =
      (.ok (.text (roomName server s.nextRoom)),
        (s.madeRoom server me user).listed me (roomName server s.nextRoom)) := by
  obtain ⟨reg, hreg⟩ := (h.hasListing me).exists_registry
  have hserver := h.toCoherent.isEncodable_server (Option.isSome_of_eq_some hu)
  rw [outcome_create_unheld hme h hc hfree,
    outcome_create hme h.valid hu hserver h.room?_next hv hne hreg,
    registered_addCreated (s := s.madeRoom server me user) (h.hasListing me) hreg]

theorem outcome_create_begun {u : UserRow} (hfree : ¬ s.live.IsHeld me user)
    (hu : s.live.user? me = some u) (he : me = user) :
    (Lifecycle.create (acting server (some me)).provider handle).outcome s =
      (.error .constraint, s.begunRoom server me) := by
  subst he
  rw [outcome_create_unheld hme h hc hfree, outcome_create_self hme h.valid hu
    (h.toCoherent.isEncodable_server (Option.isSome_of_eq_some hu)) h.room?_next]

theorem outcome_create_unregistered (hu : s.live.user? me = none) :
    (Lifecycle.create (acting server (some me)).provider handle).outcome s =
      (.error (.rejected (.ofTexts 404 Rejection.notFoundCode (RowFault.noCreator me).message)),
        s) := by
  have hfree : ¬ s.live.IsHeld me user := by
    rintro ⟨room, hroom, -⟩
    obtain ⟨m, hm, -⟩ := h.listing_record me room hroom
    have hsome : (s.live.member? room me).isSome := by rw [hm]; rfl
    have hs := h.valid.user?_isSome_of_member? hsome
    rw [hu] at hs
    cases hs
  rw [outcome_create_unheld hme h hc hfree, outcome_create_unknown hme user hu]

end Create

/-! ### Invitations that are answered -/

section Answer
variable {chat : String} (hme : IsName me)
include hme

/-- A room that the account has a record in has a name that can be encoded. -/
theorem outcome_visibleRoom (hv : s.live.Valid) {w : Membership} (hw : s.live.Stands chat me w) :
    (Lifecycle.visibleRoom (acting server (some me)).provider chat).outcome s =
      (.ok ⟨chat, w, membersIn chat s.live⟩, s) := by
  have hchat := hv.isEncodable_of_room? (hv.room?_isSome_of_member? hw.isSome)
  obtain ⟨m, hm, hword⟩ := hw
  have hr : (s.live.member? chat me).bind (fun r => roomIn chat r.membership s.live) =
      some ⟨chat, w, membersIn chat s.live⟩ := by
    simp [hm, roomIn, hword, Membership.ofWire?_wire]
  simp only [Lifecycle.visibleRoom, outcome_bind, outcome_room? hme hchat, hr, outcome_pure]

theorem outcome_visibleRoom_none (hchat : Text.isEncodable chat)
    (hm : s.live.member? chat me = none) :
    (Lifecycle.visibleRoom (acting server (some me)).provider chat).outcome s =
      (.error (.roomNotFound chat), s) := by
  simp only [Lifecycle.visibleRoom, outcome_bind, outcome_room? hme hchat, hm, Option.bind_none,
    outcome_throw]

theorem outcome_accept (h : s.live.Sound server clock next) (ha : s.live.IsActive chat me) :
    (Lifecycle.accept (acting server (some me)).provider chat).outcome s =
      (.ok (), (s.joinedRoom me chat).listed me chat) := by
  obtain ⟨reg, hreg⟩ := (h.hasListing me).exists_registry
  have hstands : ∃ w, s.live.Stands chat me w ∧ (w = .invited ∨ w = .joined) := by
    rcases ha with hw | hw
    · exact ⟨_, hw, Or.inr rfl⟩
    · exact ⟨_, hw, Or.inl rfl⟩
  obtain ⟨w, hw, hmay⟩ := hstands
  obtain ⟨m, hm, hword⟩ := id hw
  have hjoin : ((acting server (some me)).provider.join (.text me) chat).outcome s = _ :=
    outcome_join hme h.valid hm (by
      rcases hmay with rfl | rfl
      · exact Or.inl hword
      · exact Or.inr hword) hreg
  rw [registered_addJoined (s := s.joinedRoom me chat) (h.hasListing me) hreg] at hjoin
  simp only [Lifecycle.accept, outcome_bind, outcome_owner hme.ne_empty,
    outcome_visibleRoom hme h.valid hw, hjoin]

theorem outcome_accept_left (hv : s.live.Valid) (hw : s.live.Stands chat me .left) :
    (Lifecycle.accept (acting server (some me)).provider chat).outcome s =
      (.error (notInvited me chat), s) := by
  have hnot : ∀ r, s.live.member? chat me = some r → ¬ MayJoin r := by
    intro r hr hmay
    rcases hmay with e | e
    · cases Tables.Stands.unique hw ⟨r, hr, e⟩
    · cases Tables.Stands.unique hw ⟨r, hr, e⟩
  have hchat := hv.isEncodable_of_room? (hv.room?_isSome_of_member? hw.isSome)
  simp only [Lifecycle.accept, outcome_bind, outcome_owner hme.ne_empty,
    outcome_visibleRoom hme hv hw, outcome_join_refused hme hchat hnot]

theorem outcome_accept_none (hchat : Text.isEncodable chat) (hm : s.live.member? chat me = none) :
    (Lifecycle.accept (acting server (some me)).provider chat).outcome s =
      (.error (.roomNotFound chat), s) := by
  simp only [Lifecycle.accept, outcome_bind, outcome_owner hme.ne_empty,
    outcome_visibleRoom_none hme hchat hm]

theorem outcome_decline (hv : s.live.Valid) {w : Membership} (hw : s.live.Stands chat me w) :
    (Lifecycle.decline (acting server (some me)).provider chat).outcome s =
      (.ok (), s.leftRoom me chat) := by
  simp only [Lifecycle.decline, outcome_bind, outcome_visibleRoom hme hv hw,
    outcome_leave hme (bound_ownRecord hme hv hw.isSome (by decide)) hw.isSome]

theorem outcome_decline_none (hchat : Text.isEncodable chat) (hm : s.live.member? chat me = none) :
    (Lifecycle.decline (acting server (some me)).provider chat).outcome s =
      (.error (.roomNotFound chat), s) := by
  simp only [Lifecycle.decline, outcome_bind, outcome_visibleRoom_none hme hchat hm]

end Answer

/-! ### The other member -/

/-- The records of a room, as its members. -/
theorem exists_mem_membersIn (h : t.Coherent server clock next) {room : String}
    (hm : (t.member? room user).isSome) : ∃ x ∈ membersIn room t, x.userId = user ∧
      x.displayName = (t.user? user).bind (·.displayName) := by
  obtain ⟨w, r, hr, hw⟩ := h.exists_stands hm
  obtain ⟨hmem, -, rfl⟩ := Tables.of_member?_eq_some hr
  have hx : memberOfRow r = some ⟨r.userId, w, r.displayName, r.isDirect⟩ :=
    memberOfRow_eq_some_iff.mpr ⟨hw.symm, rfl⟩
  exact ⟨_, (mem_membersIn h.valid).mpr ⟨r, hr, hx⟩, rfl, h.name r hmem⟩

theorem of_mem_membersIn (h : t.Coherent server clock next) {room : String} {x : Member}
    (hx : x ∈ membersIn room t) : (t.member? room x.userId).isSome ∧
      x.displayName = (t.user? x.userId).bind (·.displayName) := by
  obtain ⟨r, hr, hxr⟩ := (mem_membersIn h.valid).mp hx
  obtain ⟨-, hx⟩ := memberOfRow_eq_some_iff.mp hxr
  have hname := h.name r (Tables.of_member?_eq_some hr).1
  rw [hx]
  exact ⟨by rw [hr]; rfl, hname⟩

/-- **The contact of an account in a room is the handle and the name of the other member.** -/
theorem otherContact_of_other (h : t.Coherent server clock next) {room : String}
    (hm : (t.member? room me).isSome) (hne : user ≠ me) (hu : (t.member? room user).isSome) :
    ∃ handle name, UserId.qualify handle server = user ∧
      (t.user? user).bind (·.displayName) = some name ∧
      Lifecycle.otherContact (.text me) (membersIn room t) = .ok ⟨handle, name⟩ := by
  obtain ⟨row, hrow, hid⟩ := h.exists_room hu
  obtain ⟨y, hy, hyu, -⟩ := exists_mem_membersIn h hu
  have hs : (otherMember? (.text me) (membersIn room t)).isSome := by
    rw [otherMember?, List.find?_isSome]
    exact ⟨y, hy, by simpa [hyu] using hne⟩
  obtain ⟨x, hx⟩ := Option.isSome_iff_exists.mp hs
  have hxne : x.userId ≠ me := by simpa using List.find?_some hx
  obtain ⟨hxm, hxname⟩ := of_mem_membersIn h (List.mem_of_find?_eq_some hx)
  -- the room has no third member
  have hxu : x.userId = user := by
    subst hid
    exact (h.eq_creator_or_eq hrow hne.symm hm hu hxm).resolve_left hxne
  obtain ⟨u, hrow'⟩ := Option.isSome_iff_exists.mp (h.valid.user?_isSome_of_member? hu)
  obtain ⟨hmem, huid⟩ := Tables.of_user?_eq_some hrow'
  obtain ⟨handle, name, hh, -, hq, hname⟩ := h.user_named u hmem
  have huser : UserId.qualify handle server = user := Option.some.inj (hq.symm.trans huid)
  refine ⟨handle, name, huser, by rw [hrow', Option.bind_some, hname], ?_⟩
  rw [Lifecycle.otherContact, hx]
  simp only [Member.contact, hxname, hxu, hrow', Option.bind_some, hname, Option.getD_some]
  rw [← huser, UserId.handle_qualify server hh]

theorem otherContact_alone (h : t.Coherent server clock next) {room : String}
    (hno : ¬ t.HasOther room me) :
    Lifecycle.otherContact (.text me) (membersIn room t) = .error .alone := by
  have hnone : otherMember? (.text me) (membersIn room t) = none := by
    rw [otherMember?, List.find?_eq_none]
    intro x hx hne
    exact hno ⟨x.userId, by simpa using hne, (of_mem_membersIn h hx).1⟩
  rw [Lifecycle.otherContact, hnone]

/-! ### Listing chats and invitations -/

/-- The joined rooms that an account lists and that somebody has left. -/
def staleIn (me : String) (t : Tables) : List Room :=
  (Resolver.candidates (roomsIn me t) (t.listing me) .joined).filter Resolver.isStale

theorem isStale_iff (hv : t.Valid) {x : Room} (hx : x ∈ roomsIn me t) :
    Resolver.isStale x ↔ ∃ v, t.Stands x.id v .left := by
  rw [Resolver.isStale, Room.hasMemberWith_iff, members_of_mem_roomsIn hx]
  constructor
  · rintro ⟨m, hm, hw⟩
    exact ⟨m.userId, (exists_member_iff hv).mp ⟨m, hm, rfl, hw⟩⟩
  · rintro ⟨v, hw⟩
    obtain ⟨m, hm, -, hw⟩ := (exists_member_iff hv).mpr hw
    exact ⟨m, hm, hw⟩

theorem mem_candidates {rooms : List Room} {listed : List String} {w : Membership} {x : Room} :
    x ∈ Resolver.candidates rooms listed w ↔ x ∈ rooms ∧ x.membership = w ∧ x.id ∈ listed := by
  simp [Resolver.candidates]

/-- **The stale rooms are those that an account has joined and somebody has left.** -/
theorem mem_staleIn (h : t.Sound server clock next) {x : Room} : x ∈ staleIn me t ↔
    x ∈ roomsIn me t ∧ t.Stands x.id me .joined ∧ ∃ v, t.Stands x.id v .left := by
  rw [staleIn, List.mem_filter, mem_candidates]
  constructor
  · rintro ⟨⟨hx, hw, -⟩, hs⟩
    exact ⟨hx, hw ▸ stands_of_mem_roomsIn hx, (isStale_iff h.valid hx).mp hs⟩
  · rintro ⟨hx, hj, v, hl⟩
    have hw := Tables.Stands.unique (stands_of_mem_roomsIn hx) hj
    -- whoever has left is somebody else, so the room is listed
    have hv : v ≠ me := by
      rintro rfl
      cases Tables.Stands.unique hj hl
    obtain ⟨m, hm, hmw⟩ := hj
    exact ⟨⟨hx, hw, h.joined_listed x.id me m hm hmw ⟨v, hv, hl.isSome⟩⟩,
      (isStale_iff h.valid hx).mpr ⟨v, hl⟩⟩

/-- An account lists no room that it is only invited to. -/
theorem candidates_invited (h : t.Sound server clock next) :
    Resolver.candidates (roomsIn me t) (t.listing me) .invited = [] := by
  rw [List.eq_nil_iff_forall_not_mem]
  intro x hx
  obtain ⟨hx, hw, hl⟩ := mem_candidates.mp hx
  obtain ⟨m, hm, hne⟩ := h.listing_record me x.id hl
  obtain ⟨m', hm', hw'⟩ := hw ▸ stands_of_mem_roomsIn hx
  obtain rfl := Option.some.inj (hm.symm.trans hm')
  exact hne hw'

/-- **The invitations of an account, in the order of the rooms.** Each of them carries the direct
flag in the record of the account. -/
theorem flagged_invited (h : t.Coherent server clock next) (me : String) :
    Resolver.flagged (roomsIn me t) .invited =
      (t.invitedRooms me).map fun row => ⟨row.id, .invited, membersIn row.id t⟩ := by
  have hflag : ∀ x ∈ roomsIn me t, x.membership = .invited → x.hasDirectFlag := by
    intro x hx hw
    obtain ⟨m, hm, hmw⟩ := stands_of_mem_roomsIn hx
    rw [hw] at hmw
    obtain ⟨hmem, -, -⟩ := Tables.of_member?_eq_some hm
    have hf := h.flag m hmem
    rw [if_pos hmw] at hf
    have hmx : memberOfRow m = some ⟨m.userId, .invited, m.displayName, m.isDirect⟩ :=
      memberOfRow_eq_some_iff.mpr ⟨hmw.symm, rfl⟩
    rw [Room.hasDirectFlag_iff, members_of_mem_roomsIn hx]
    obtain ⟨-, -, hme⟩ := Tables.of_member?_eq_some hm
    exact ⟨_, (mem_membersIn h.valid).mpr ⟨m, hme.symm ▸ hm, hmx⟩, hf⟩
  have hfilter : Resolver.flagged (roomsIn me t) .invited =
      (roomsIn me t).filter (·.membership == .invited) := by
    refine List.filter_congr fun x hx => ?_
    by_cases hw : x.membership = .invited
    · simp [hw, hflag x hx hw]
    · simp [hw]
  rw [hfilter, roomsIn_eq, Tables.invitedRooms, List.filter_filterMap, ← List.filterMap_eq_map,
    List.filterMap_filter]
  refine List.filterMap_congr fun row _ => ?_
  rcases hm : t.member? row.id me with _ | r
  · simp [Tables.Stands, hm]
  · by_cases hw : r.membership = Membership.invited.wire
    · simp [Tables.Stands, hm, roomIn, hw, Membership.ofWire?_wire, Option.filter]
    · have hne : ∀ w, Membership.ofWire? r.membership = some w → w ≠ .invited := by
        rintro w hr rfl
        exact hw (Membership.ofWire?_eq_some_iff.mp hr).symm
      rcases hr : Membership.ofWire? r.membership with _ | w
      · simp [Tables.Stands, hm, roomIn, hw, hr]
      · simp [Tables.Stands, hm, roomIn, hw, hr, hne w hr, Option.filter]

theorem mem_roomsIn_of_mem_remaining {listed : List String} {w : Membership} {x : Room}
    (hx : x ∈ Resolver.remaining (roomsIn me t) listed w) : x ∈ roomsIn me t := by
  unfold Resolver.remaining at hx
  dsimp only at hx
  split_ifs at hx
  · exact List.mem_of_mem_filter hx
  · exact List.mem_of_mem_filter (List.mem_of_mem_filter hx)

/-- The invitations of some rooms, with the members as they were read. -/
theorem outcome_inviters (rooms : List Room) :
    (rooms.mapM fun (room : Room) => do
      return (⟨chatId room.id, ← lift (Lifecycle.otherContact (.text me) room.members)⟩ :
        Invitation)).outcome s = (rooms.mapM fun room =>
          (Lifecycle.otherContact (.text me) room.members).map fun c => ⟨chatId room.id, c⟩, s) :=
  outcome_mapM_of_fixed rooms fun _ _ => outcome_bind_pure _ (outcome_lift _ s)

/-- The chats of some rooms that the account is in, with the members read anew. -/
theorem outcome_contacts (server : String) (hme : IsName me) {rooms : List Room}
    (h : ∀ x ∈ rooms, Text.isEncodable x.id ∧ (s.live.room? x.id).isSome ∧
      (s.live.member? x.id me).isSome) :
    (forEach rooms fun (room : Room) => do
      let members ← (acting server (some me)).provider.members? room.id
      return (⟨chatId room.id, ← lift (Lifecycle.otherContact (.text me) (members.getD []))⟩ :
        Chat)).outcome s = (rooms.mapM fun room => (Lifecycle.otherContact (.text me)
          (membersIn room.id s.live)).map fun c => ⟨chatId room.id, c⟩, s) := by
  refine outcome_forEach_of_fixed rooms fun x hx => ?_
  obtain ⟨hid, hroom, hmember⟩ := h x hx
  rw [outcome_bind_ok (outcome_members? hme hid hroom hmember)]
  exact outcome_bind_pure _ (outcome_lift _ s)

theorem listedIn_eq (h : s.live.HasListing me) :
    listedIn me (.text me) s.live = .ok (s.live.listing me) := by
  obtain ⟨reg, hreg⟩ := h.exists_registry
  rw [listedIn, hreg, ← roomsOf_registry h hreg]
  rfl

section Listing
variable (hme : IsName me) (h : s.live.Sound server clock next)
include hme h

/-- Whatever room the account sees, it can leave. -/
theorem bound_left_of_mem_roomsIn {x : Room} (hx : x ∈ roomsIn me s.live) :
    bound (s.record x.id me Membership.left.wire).texts = .ok () :=
  bound_ownRecord hme h.valid (member?_isSome_of_mem_roomsIn hx).2 (by decide)

theorem outcome_resolve_joined :
    (Resolver.resolve (acting server (some me)).provider (.text me) .joined).outcome s =
      (.ok (Resolver.remaining (roomsIn me s.live) (s.live.listing me) .joined),
        s.leftRooms me (staleIn me s.live)) :=
  outcome_resolve hme (knownOwner_text hme.ne_empty) .joined (listedIn_eq (h.hasListing me))
    fun _ hx => bound_left_of_mem_roomsIn hme h (List.mem_of_mem_filter (List.mem_of_mem_filter hx))

theorem outcome_resolve_invited :
    (Resolver.resolve (acting server (some me)).provider (.text me) .invited).outcome s =
      (.ok (Resolver.flagged (roomsIn me s.live) .invited), s) := by
  rw [outcome_resolve hme (knownOwner_text hme.ne_empty) .invited (listedIn_eq (h.hasListing me))
      fun _ hx => bound_left_of_mem_roomsIn hme h
        (List.mem_of_mem_filter (List.mem_of_mem_filter hx)),
    Resolver.remaining, staleOf, candidates_invited h]
  rfl

theorem outcome_invitations :
    (Lifecycle.invitations (acting server (some me)).provider).outcome s =
      ((Resolver.flagged (roomsIn me s.live) .invited).mapM fun x =>
        (Lifecycle.otherContact (.text me) x.members).map fun c => ⟨chatId x.id, c⟩, s) := by
  simp only [Lifecycle.invitations, outcome_bind, outcome_owner hme.ne_empty,
    outcome_resolve_invited hme h]
  exact outcome_inviters _

theorem outcome_joined : (Lifecycle.joined (acting server (some me)).provider).outcome s =
    ((Resolver.remaining (roomsIn me s.live) (s.live.listing me) .joined).mapM fun x =>
      (Lifecycle.otherContact (.text me)
        (membersIn x.id (s.leftRooms me (staleIn me s.live)).live)).map fun c => ⟨chatId x.id, c⟩,
      s.leftRooms me (staleIn me s.live)) := by
  simp only [Lifecycle.joined, outcome_bind, outcome_owner hme.ne_empty,
    outcome_resolve_joined hme h]
  refine outcome_contacts server hme fun x hx => ?_
  rw [room?_leftRooms, member?_leftRooms_isSome]
  obtain ⟨hroom, hmember⟩ := member?_isSome_of_mem_roomsIn (mem_roomsIn_of_mem_remaining hx)
  exact ⟨h.valid.isEncodable_of_room? hroom, hroom, hmember⟩

end Listing

end Account

end PairChat.Store
