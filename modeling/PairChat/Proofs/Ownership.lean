import PairChat.Proofs.History

/-!
# Ownership: what a call can change

Records and documents belong to accounts.  A call adds rows, and changes rows of the account that
makes it; it takes no row away.

* `Membership.Moves`: the ways that a record goes.  None of them leads back from `leave`.
* `Tables.Confined`: the tables after a call, seen from those before it.  Each kind of write is
  confined to its account, and confined steps add up (`Confined.trans`).
* `Tables.Adds`: the rows that a call adds.
* `confined_history`: **what a call changes and adds, after every history.**
-/

namespace PairChat

/-- **The ways in which an account changes its own record.** -/
inductive Membership.Moves : Membership → Membership → Prop
  | accept : Moves .invited .joined
  | rejoin : Moves .joined .joined
  | decline : Moves .invited .left
  | leave : Moves .joined .left
  | stay : Moves .left .left

theorem Membership.Moves.trans {u v w : Membership} (h : Moves u v) (h' : Moves v w) :
    Moves u w := by
  cases h <;> cases h' <;> constructor

namespace Store

/-- The record goes one of the ways of its account. -/
def MemberRow.Moves (m m' : MemberRow) : Prop :=
  ∃ v w : Membership, m.membership = v.wire ∧ m'.membership = w.wire ∧ v.Moves w

/-- The record says how a user stands to a room. -/
def MemberRow.Says (m : MemberRow) (room user : String) (w : Membership) : Prop :=
  m.roomId = room ∧ m.userId = user ∧ m.membership = w.wire

/-- The account that makes a call. -/
def Call.user? : Call → Option String
  | .register _ _ => none
  | .perform user _ => user

/-- Is the call meant to add rows? -/
def Call.Makes : Call → Prop
  | .register _ _ => True
  | .perform _ (.create _) => True
  | .perform _ _ => False

namespace Tables

/-- **Nothing is taken away, and only what belongs to the user is changed.** -/
structure Confined (user : Option String) (t t' : Tables) : Prop where
  users : t.users <+: t'.users
  rooms : t.rooms <+: t'.rooms
  /-- The member records stay in their places. -/
  keys : (t.members.map fun m => (m.roomId, m.userId)) <+:
    t'.members.map fun m => (m.roomId, m.userId)
  /-- A record that changes belongs to the user, and goes one of the ways. -/
  records : ∀ room v m, t.member? room v = some m →
    ∃ m', t'.member? room v = some m' ∧ (m' = m ∨ user = some v ∧ m.Moves m')
  /-- Of the documents, only the registry and the block list of the user change. -/
  documents : ∀ v type, ¬ (user = some v ∧ (type = registryType ∨ type = blockListType)) →
    t'.document? v type = t.document? v type
  /-- Listings grow at the end only. -/
  listing : ∀ v, t.listing v <+: t'.listing v

/-- **The rows that a call adds.** -/
inductive Adds (server : String) (t t' : Tables) : Call → Except Failure Reply → Prop
  /-- Nothing is added; a call that is meant to add rows has failed. -/
  | nothing {c : Call} {r : Except Failure Reply} (hr : c.Makes → ∃ e, r = .error e)
    (users : t'.users = t.users) (rooms : t'.rooms = t.rooms)
    (keys : (t'.members.map fun m => (m.roomId, m.userId)) =
      t.members.map fun m => (m.roomId, m.userId)) : Adds server t t' c r
  | user {handle : String} {name : Option String} {id : String} {row : UserRow}
    (hid : row.id = some id) (hfree : t.user? id = none) (users : t'.users = t.users ++ [row])
    (rooms : t'.rooms = t.rooms) (members : t'.members = t.members) :
    Adds server t t' (.register handle name) (.ok (.registered id))
  /-- A chat adds a new room of the account, which has joined it; one other is invited. -/
  | room {me handle : String} {reply : Reply} {row : RoomRow} {maker guest : MemberRow}
    (users : t'.users = t.users) (rooms : t'.rooms = t.rooms ++ [row])
    (hfree : t.room? row.id = none) (hcreator : row.creator = me)
    (members : t'.members = t.members ++ [maker, guest]) (hmaker : maker.Says row.id me .joined)
    (hguest : guest.Says row.id (UserId.qualify handle server) .invited)
    (hne : UserId.qualify handle server ≠ me) :
    Adds server t t' (.perform (some me) (.create handle)) (.ok reply)
  /-- A chat with oneself fails, and adds a new room that the account alone has joined. -/
  | ownRoom {me handle : String} {e : Failure} {row : RoomRow} {maker : MemberRow}
    (users : t'.users = t.users) (rooms : t'.rooms = t.rooms ++ [row])
    (hfree : t.room? row.id = none) (hcreator : row.creator = me)
    (members : t'.members = t.members ++ [maker]) (hmaker : maker.Says row.id me .joined)
    (hself : UserId.qualify handle server = me) :
    Adds server t t' (.perform (some me) (.create handle)) (.error e)

variable {t t' t'' : Tables} {user : Option String} {me room : String}

@[simp] theorem users_withListed (user room : String) :
    (t.withListed user room).users = t.users := by
  unfold withListed
  split_ifs <;> rfl

@[simp] theorem members_withListed (user room : String) :
    (t.withListed user room).members = t.members := by
  unfold withListed
  split_ifs <;> rfl

/-! ### Confined writes -/

theorem Confined.refl (user : Option String) (t : Tables) : Confined user t t where
  users := List.prefix_refl _
  rooms := List.prefix_refl _
  keys := List.prefix_refl _
  records _ _ m hm := ⟨m, hm, Or.inl rfl⟩
  documents _ _ _ := rfl
  listing _ := List.prefix_refl _

theorem Confined.trans (h : Confined user t t') (h' : Confined user t' t'') :
    Confined user t t'' where
  users := h.users.trans h'.users
  rooms := h.rooms.trans h'.rooms
  keys := h.keys.trans h'.keys
  records r v m hm := by
    obtain ⟨m', hm', hw⟩ := h.records r v m hm
    obtain ⟨m'', hm'', hw'⟩ := h'.records r v m' hm'
    refine ⟨m'', hm'', ?_⟩
    rcases hw with rfl | ⟨hu, a, b, ha, hb, hab⟩
    · exact hw'
    · rcases hw' with rfl | ⟨-, b', c, hb', hc, hbc⟩
      · exact Or.inr ⟨hu, a, b, ha, hb, hab⟩
      · obtain rfl := Membership.wire_injective (hb.symm.trans hb')
        exact Or.inr ⟨hu, a, c, ha, hc, hab.trans hbc⟩
  documents v type hno := (h'.documents v type hno).trans (h.documents v type hno)
  listing v := (h.listing v).trans (h'.listing v)

theorem confined_withUser (row : UserRow) : Confined user t (t.withUser row) :=
  { Confined.refl user t with users := List.prefix_append _ _ }

theorem confined_withRoom (row : RoomRow) (rs : List MemberRow) :
    Confined user t (t.withRoom row rs) :=
  { Confined.refl user t with
    rooms := List.prefix_append _ _
    keys := by
      show _ <+: (t.members ++ rs).map _
      rw [List.map_append]
      exact List.prefix_append _ _
    records := fun r v m hm => ⟨m, by rw [member?_withRoom, hm, Option.some_or], Or.inl rfl⟩ }

/-- A record of the user is changed along one of the ways. -/
theorem confined_withRecord (row : MemberRow) {v w : Membership}
    (hs : t.Stands row.roomId row.userId v) (hw : row.membership = w.wire) (hvw : v.Moves w) :
    Confined (some row.userId) t (t.withRecord row) :=
  { Confined.refl (some row.userId) t with
    keys := by simp only [keys_withRecord, List.prefix_rfl]
    records := fun r u m hm => by
      rw [member?_withRecord, hm]
      split_ifs with hk
      · obtain ⟨rfl, rfl⟩ := Prod.mk.inj hk
        obtain ⟨old, hold, hov⟩ := hs
        obtain rfl := Option.some.inj (hold.symm.trans hm)
        exact ⟨row, rfl, Or.inr ⟨rfl, v, w, hov, hw, hvw⟩⟩
      · exact ⟨m, rfl, Or.inl rfl⟩ }

theorem confined_withListed (me room : String) : Confined (some me) t (t.withListed me room) :=
  { Confined.refl (some me) t with
    users := by simp
    rooms := by simp
    keys := by simp
    records := fun r v m hm => ⟨m, by rw [member?_withListed, hm], Or.inl rfl⟩
    documents := fun v type hno => by
      unfold withListed
      split_ifs
      · rfl
      · rw [document?_withDocument, if_neg]
        intro hk
        obtain ⟨rfl, rfl⟩ := Prod.mk.inj hk
        exact hno ⟨rfl, Or.inl rfl⟩
    listing := fun v => by
      rw [listing_withListed]
      split_ifs with hv
      · rw [hv.1]
        exact List.prefix_append _ _
      · exact List.prefix_refl _ }

theorem confined_withBlockList (me : String) (content : Value) :
    Confined (some me) t (t.withDocument ⟨me, blockListType, content⟩) :=
  { Confined.refl (some me) t with
    documents := fun v type hno => by
      rw [document?_withDocument, if_neg]
      intro hk
      obtain ⟨rfl, rfl⟩ := Prod.mk.inj hk
      exact hno ⟨rfl, Or.inr rfl⟩
    listing := fun v => by
      have htype : (me, blockListType) ≠ (v, registryType) :=
        fun e => absurd (Prod.mk.inj e).2 (by decide)
      have hl : (t.withDocument ⟨me, blockListType, content⟩).listing v = t.listing v :=
        listing_withDocument_of_ne htype
      simp only [hl, List.prefix_rfl] }

end Tables

variable {server me : String} {s s' : Store} {c : Call} {r : Except Failure Reply}

/-- Whoever has a record in a room, whatever it says, may leave the room. -/
theorem confined_leftRoom {room : String} {v : Membership} (hs : s.live.Stands room me v)
    (hv : v.Moves .left) : s.live.Confined (some me) (s.leftRoom me room).live :=
  Tables.confined_withRecord (s.record room me Membership.left.wire) hs rfl hv

theorem confined_leftRooms {rooms : List Room}
    (h : ∀ x ∈ rooms, ∃ v, s.live.Stands x.id me v ∧ v.Moves .left) :
    s.live.Confined (some me) (s.leftRooms me rooms).live := by
  induction rooms generalizing s with
  | nil => exact Tables.Confined.refl _ _
  | cons x rooms ih =>
    obtain ⟨v, hs, hv⟩ := h x List.mem_cons_self
    refine (confined_leftRoom hs hv).trans (ih fun y hy => ?_)
    obtain ⟨w, hy, hw⟩ := h y (List.mem_cons_of_mem x hy)
    -- the second room may be the first one again
    by_cases hk : y.id = x.id
    · have hleft := stands_leftRoom hs.isSome
      exact ⟨.left, hk.symm ▸ hleft, .stay⟩
    · obtain ⟨m, hm, hmw⟩ := hy
      refine ⟨w, ⟨m, ?_, hmw⟩, hw⟩
      rw [live_leftRoom, Tables.member?_withRecord, if_neg, hm]
      exact fun e => hk (Prod.mk.inj e).1

/-! ### What a call changes and adds -/

/-- **A call is confined to the account that makes it.** -/
theorem Effect.confined (he : Effect server s c r s') (h : s.live.Sound server s.clock s.nextRoom) :
    s.live.Confined c.user? s'.live := by
  cases he with
  | failed instants => exact Tables.Confined.refl _ _
  | observed hop => exact Tables.Confined.refl _ _
  | registered hh hid hne hname hfree => exact Tables.confined_withUser _
  | made hu hv hne hfree =>
    rw [live_listed]
    exact (Tables.confined_withRoom _ _).trans (Tables.confined_withListed _ _)
  | begun hu he hfree => exact Tables.confined_withRoom _ _
  | @accepted me chat ha =>
    rw [live_listed]
    refine Tables.Confined.trans ?_ (Tables.confined_withListed _ _)
    rcases ha with hs | hs
    · exact Tables.confined_withRecord (s.record chat me Membership.joined.wire) hs rfl
        .rejoin
    · exact Tables.confined_withRecord (s.record chat me Membership.joined.wire) hs rfl
        .accept
  | declined hm =>
    rcases h.toCoherent.stands hm with hs | hs | hs
    · exact confined_leftRoom hs .decline
    · exact confined_leftRoom hs .leave
    · exact confined_leftRoom hs .stay
  | swept =>
    exact confined_leftRooms fun x hx => ⟨.joined, ((Account.mem_staleIn h).mp hx).2.1, .leave⟩
  | blockList hop hu => exact Tables.confined_withBlockList _ _

theorem Effect.adds (he : Effect server s c r s') (h : s.live.Sound server s.clock s.nextRoom) :
    s.live.Adds server s'.live c r := by
  cases he with
  | failed instants => exact .nothing (fun _ => ⟨_, rfl⟩) rfl rfl rfl
  | observed hop =>
    refine .nothing (fun hc => ?_) rfl rfl rfl
    rcases hop with rfl | rfl | ⟨handle, rfl⟩ <;> cases hc
  | registered hh hid hne hname hfree => exact .user rfl hfree rfl rfl rfl
  | made hu hv hne hfree =>
    rw [live_listed]
    exact .room (Tables.users_withListed _ _) (Tables.rooms_withListed _ _) h.room?_next rfl
      (Tables.members_withListed _ _) ⟨rfl, rfl, rfl⟩ ⟨rfl, rfl, rfl⟩ hne.symm
  | begun hu he hfree =>
    exact .ownRoom rfl rfl h.room?_next rfl rfl ⟨rfl, rfl, rfl⟩ he.symm
  | accepted ha =>
    rw [live_listed]
    refine .nothing (fun hc => hc.elim) (Tables.users_withListed _ _)
      (Tables.rooms_withListed _ _) ?_
    rw [Tables.members_withListed, live_joinedRoom, Tables.keys_withRecord]
  | declined hm => exact .nothing (fun hc => hc.elim) rfl rfl (Tables.keys_withRecord _)
  | swept =>
    refine .nothing (fun hc => hc.elim) ?_ ?_ (keys_leftRooms _) <;> rw [live_leftRooms]
  | blockList hop hu =>
    refine .nothing (fun hc => ?_) rfl rfl rfl
    rcases hop with ⟨handle, rfl⟩ | ⟨handle, rfl⟩ <;> cases hc

/-! ### Every history -/

/-- A record that says `leave` says so after every call, -/
theorem Tables.Confined.stands_left {t t' : Tables} {user : Option String} {room v : String}
    (h : t.Confined user t') (hs : t.Stands room v .left) : t'.Stands room v .left := by
  obtain ⟨m, hm, hw⟩ := hs
  obtain ⟨m', hm', rfl | ⟨-, a, b, ha, hb, hab⟩⟩ := h.records room v m hm
  · exact ⟨m', hm', hw⟩
  · obtain rfl := Membership.wire_injective (ha.symm.trans hw)
    cases hab
    exact ⟨m', hm', hb⟩

/-- and after every further history. -/
theorem stands_left_after (h : s.Sound server) (calls : List Call) {room v : String}
    (hs : s.live.Stands room v .left) : (s.after server calls).live.Stands room v .left := by
  induction calls generalizing s with
  | nil => exact hs
  | cons c calls ih =>
    exact ih (h.next c) (((effect_call h.live c).confined h.live).stands_left hs)

/-- **What a call changes and adds, after every history.** It takes nothing away and changes only
what belongs to the account that makes it; it adds a new room of that account where it makes a chat,
and nothing else; and whoever has left a room has left it for good. -/
theorem confined_history (server : String) (first number : Nat) (calls : List Call) (c : Call) :
    let s := (empty first number).after server calls
    s.live.Confined c.user? (c.next server s).live ∧
      s.live.Adds server (c.next server s).live c (c.reply server s) ∧
      ∀ calls' room v, s.live.Stands room v .left →
        (s.after server calls').live.Stands room v .left := by
  intro s
  have h : s.Sound server := sound_after server first number calls
  have he := effect_call h.live c
  exact ⟨he.confined h.live, he.adds h.live, fun calls' room v hs => stands_left_after h calls' hs⟩

end Store

end PairChat
