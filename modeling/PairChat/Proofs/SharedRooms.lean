import PairChat.Proofs.Creation

/-!
# Shared rooms: how many chats two people have

Two accounts share a room where each of them has joined it or is invited.

* An account that was only invited to a shared room does not list it, so it may make a second one:
  the two invitations cross (`Call.Crosses`).
* `sharesOnce_next_iff`: a call keeps it to one shared room for each two accounts exactly where it
  makes no such chat; `sharesOnce_after_iff` is the same for histories.
* Nobody makes a second room that is shared with the same account (`sharesOncePerMaker_after`).
-/

namespace PairChat.Store

open PairChat.Action Account

namespace Tables

/-- Both users have joined the room or are invited to it. -/
def IsShared (t : Tables) (room a b : String) : Prop := t.IsActive room a ∧ t.IsActive room b

instance (t : Tables) (room a b : String) : Decidable (t.IsShared room a b) :=
  inferInstanceAs (Decidable (_ ∧ _))

/-- Two users share at most one room. -/
def SharesOnce (t : Tables) : Prop :=
  ∀ a b, a ≠ b → ∀ room room', t.IsShared room a b → t.IsShared room' a b → room = room'

/-- Two users share at most one room of the same maker. -/
def SharesOncePerMaker (t : Tables) : Prop :=
  ∀ a b, a ≠ b → ∀ row ∈ t.rooms, ∀ row' ∈ t.rooms, row.creator = row'.creator →
    t.IsShared row.id a b → t.IsShared row'.id a b → row = row'

variable {t : Tables} {room a b : String}

theorem IsShared.symm (h : t.IsShared room a b) : t.IsShared room b a := ⟨h.2, h.1⟩

/-- It does not matter which of the two is named first. -/
theorem IsShared.of_pair {me other : String} (h : t.IsShared room a b)
    (hab : a = me ∧ b = other ∨ a = other ∧ b = me) : t.IsShared room me other := by
  rcases hab with ⟨rfl, rfl⟩ | ⟨rfl, rfl⟩
  · exact h
  · exact h.symm

theorem IsShared.hasOther (h : t.IsShared room a b) (hne : a ≠ b) : t.HasOther room a :=
  ⟨b, hne.symm, h.2.isSome⟩

end Tables

/-- The call makes a chat with somebody whose invitation to the caller is still open. -/
def Call.Crosses (server : String) (s : Store) (c : Call) : Prop :=
  ∃ me handle room, c = .perform (some me) (.create handle) ∧
    (∃ reply, c.reply server s = .ok reply) ∧ s.live.Stands room me .invited ∧
    s.live.IsActive room (UserId.qualify handle server)

variable {s s' : Store} {t : Tables} {server me handle room a b : String} {clock next : Nat}
  {c : Call} {r : Except Failure Reply}

/-! ### What a call shares -/

/-- In a shared room whose other participant is not held, the account is only invited. -/
theorem stands_invited_of_not_isHeld (h : t.Sound server clock next) (hne : me ≠ a)
    (hs : t.IsShared room me a) (hfree : ¬ t.IsHeld me a) : t.Stands room me .invited := by
  rcases hs.1 with ⟨m, hm, hw⟩ | hi
  · have hl := h.joined_listed room me m hm hw (hs.hasOther hne)
    exact absurd ⟨room, hl, hs.2⟩ hfree
  · exact hi

/-- A new room leaves the records of the other rooms as they are. -/
theorem isActive_withRoom_of_ne {row : RoomRow} {rs : List MemberRow}
    (hrs : ∀ m ∈ rs, m.roomId = row.id) (hne : room ≠ row.id) :
    (t.withRoom row rs).IsActive room a ↔ t.IsActive room a := by
  simp only [Tables.IsActive, Tables.Stands, Tables.member?_withRoom_of_ne hrs hne]

theorem isActive_withRecord_of_ne {row : MemberRow} (hk : (room, a) ≠ (row.roomId, row.userId)) :
    (t.withRecord row).IsActive room a ↔ t.IsActive room a := by
  simp only [Tables.IsActive, Tables.Stands, Tables.member?_withRecord, if_neg hk]

/-- Leaving a room makes nobody active. -/
theorem isActive_of_leftRoom {chat : String} (ha : (s.leftRoom me chat).live.IsActive room a) :
    s.live.IsActive room a := by
  by_cases hk : (room, a) = (chat, me)
  · obtain ⟨rfl, rfl⟩ := Prod.mk.inj hk
    have hold : (s.live.member? room a).isSome := by
      rw [← Tables.member?_withRecord_isSome (s.record room a Membership.left.wire)]
      exact ha.isSome
    rcases ha with ha | ha <;> cases Tables.Stands.unique ha (stands_leftRoom hold)
  · exact (isActive_withRecord_of_ne hk).mp ha

theorem isActive_of_leftRooms (rooms : List Room)
    (ha : (s.leftRooms me rooms).live.IsActive room a) : s.live.IsActive room a := by
  induction rooms generalizing s with
  | nil => exact ha
  | cons x rooms ih => exact isActive_of_leftRoom (ih ha)

/-- Nobody joins a room without being active in it. -/
theorem isActive_of_joinedRoom {chat : String} (hactive : s.live.IsActive chat me)
    (ha : (s.joinedRoom me chat).live.IsActive room a) : s.live.IsActive room a := by
  by_cases hk : (room, a) = (chat, me)
  · obtain ⟨rfl, rfl⟩ := Prod.mk.inj hk
    exact hactive
  · exact (isActive_withRecord_of_ne hk).mp ha

theorem isActive_withListed {user list : String} :
    (t.withListed user list).IsActive room a ↔ t.IsActive room a := by
  simp only [Tables.IsActive, Tables.Stands, Tables.member?_withListed]

/-- A shared room was shared before, or it is new and both have a record that it begins with. -/
theorem isShared_of_withRoom (h : t.Coherent server clock next) {row : RoomRow} {maker : MemberRow}
    {guests : List MemberRow} (hn : t.IsNewRoom server clock next row maker guests)
    (hs : (t.withRoom row (maker :: guests)).IsShared room a b) : t.IsShared room a b ∨
      room = row.id ∧ (∃ m ∈ maker :: guests, m.userId = a) ∧
        ∃ m ∈ maker :: guests, m.userId = b := by
  by_cases hroom : room = row.id
  · subst hroom
    exact Or.inr ⟨rfl, h.exists_newRecord hn hs.1.isSome, h.exists_newRecord hn hs.2.isSome⟩
  · rw [Tables.IsShared, isActive_withRoom_of_ne hn.roomId hroom,
      isActive_withRoom_of_ne hn.roomId hroom] at hs
    exact Or.inl hs

/-- **A shared room was shared before, or it is made by one of the two.** -/
theorem Effect.isShared (he : Effect server s c r s') (h : s.live.Sound server s.clock s.nextRoom)
    (hne : a ≠ b) (hs : s'.live.IsShared room a b) : s.live.IsShared room a b ∨
      room = roomName server s.nextRoom ∧ ∃ me handle, c = .perform (some me) (.create handle) ∧
        (∃ reply, r = .ok reply) ∧ (a = me ∧ b = UserId.qualify handle server ∨
          a = UserId.qualify handle server ∧ b = me) := by
  cases he with
  | failed instants => exact Or.inl hs
  | observed hop => exact Or.inl hs
  | registered hh hid hne hname hfree => exact Or.inl hs
  | @made me handle u v hu hv hself hfree =>
    simp only [Tables.IsShared, live_listed, isActive_withListed] at hs
    rcases isShared_of_withRoom h.toCoherent (isNewRoom_made hu server hv hself) hs with
      hold | ⟨hroom, ⟨m, hm, rfl⟩, m', hm', rfl⟩
    · exact Or.inl hold
    · refine Or.inr ⟨hroom, me, handle, rfl, ⟨_, rfl⟩, ?_⟩
      simp only [List.mem_cons, List.not_mem_nil, or_false] at hm hm'
      rcases hm with rfl | rfl <;> rcases hm' with rfl | rfl
      · exact absurd rfl hne
      · exact Or.inl ⟨rfl, rfl⟩
      · exact Or.inr ⟨rfl, rfl⟩
      · exact absurd rfl hne
  | @begun me handle u hu hself hfree =>
    rcases isShared_of_withRoom h.toCoherent (isNewRoom_begun hu server) hs with
      hold | ⟨hroom, ⟨m, hm, rfl⟩, m', hm', rfl⟩
    · exact Or.inl hold
    · rw [List.mem_singleton.mp hm, List.mem_singleton.mp hm'] at hne
      exact absurd rfl hne
  | @accepted me chat hactive =>
    simp only [Tables.IsShared, live_listed, isActive_withListed] at hs
    exact Or.inl ⟨isActive_of_joinedRoom hactive hs.1, isActive_of_joinedRoom hactive hs.2⟩
  | declined hm => exact Or.inl ⟨isActive_of_leftRoom hs.1, isActive_of_leftRoom hs.2⟩
  | swept => exact Or.inl ⟨isActive_of_leftRooms _ hs.1, isActive_of_leftRooms _ hs.2⟩
  | blockList hop hu => exact Or.inl hs

/-- A chat that is made is shared by the two, and what was shared before stays shared. -/
theorem Effect.isShared_made (h : s.live.Sound server s.clock s.nextRoom) {reply : Reply}
    (he : Effect server s (.perform (some me) (.create handle)) (.ok reply) s') :
    me ≠ UserId.qualify handle server ∧ ¬ s.live.IsHeld me (UserId.qualify handle server) ∧
      s'.live.IsShared (roomName server s.nextRoom) me (UserId.qualify handle server) ∧
      ∀ room a b, s.live.IsShared room a b → s'.live.IsShared room a b := by
  cases he with
  | observed hop => simp at hop
  | blockList hop hu => simp at hop
  | @made _ _ u v hu hv hself hfree =>
    have hn := isNewRoom_made hu server hv hself
    simp only [Tables.IsShared, live_listed, isActive_withListed, live_madeRoom]
    refine ⟨hself, hfree, ⟨Or.inl ⟨_, h.toCoherent.member?_maker hn, hn.joined.1⟩, Or.inr ?_⟩, ?_⟩
    · have hinvited : s.invitedRecord server (UserId.qualify handle server) ∈
          (s.madeRoom server me (UserId.qualify handle server)).live.members :=
        List.mem_append_right _ (List.mem_cons_of_mem _ (List.mem_singleton_self _))
      exact ⟨_, (h.toCoherent.withRoom hn).valid.member?_of_mem hinvited, rfl⟩
    · rintro room a b ⟨ha, hb⟩
      have hroom : room ≠ roomName server s.nextRoom := by
        rintro rfl
        have hs := ha.isSome
        rw [h.member?_next] at hs
        cases hs
      rw [isActive_withRoom_of_ne hn.roomId hroom, isActive_withRoom_of_ne hn.roomId hroom]
      exact ⟨ha, hb⟩

/-- An account that makes a chat was at most invited to a room that it shared with the other. -/
theorem stands_invited_of_reply (h : s.Sound server) {reply : Reply}
    (hr : (Call.perform (some me) (.create handle)).reply server s = .ok reply)
    (hs : s.live.IsShared room me (UserId.qualify handle server)) :
    s.live.Stands room me .invited := by
  have he := effect_call h.live (Call.perform (some me) (.create handle))
  rw [hr] at he
  obtain ⟨hself, hfree, -⟩ := he.isShared_made h.live
  exact stands_invited_of_not_isHeld h.live hself hs hfree

/-! ### One shared room -/

/-- **A call keeps it to one shared room, unless it crosses an invitation.** -/
theorem sharesOnce_next_iff (h : s.Sound server) (hone : s.live.SharesOnce) (c : Call) :
    (c.next server s).live.SharesOnce ↔ ¬ c.Crosses server s := by
  have he := effect_call h.live c
  constructor
  · rintro hone' ⟨me, handle, room, rfl, ⟨reply, hr⟩, hi, ha⟩
    rw [hr] at he
    obtain ⟨hne, -, hnew, hold⟩ := he.isShared_made h.live
    have hroom := hone' _ _ hne _ _ (hold _ _ _ ⟨Or.inr hi, ha⟩) hnew
    have hs := ha.isSome
    rw [hroom, h.live.member?_next] at hs
    cases hs
  · intro hno a b hne room room' hs hs'
    have hcross : ∀ {me handle room}, c = .perform (some me) (.create handle) →
        (∃ reply, c.reply server s = .ok reply) →
        ¬ s.live.IsShared room me (UserId.qualify handle server) := by
      rintro me handle room rfl ⟨reply, hr⟩ hs
      exact hno ⟨me, handle, room, rfl, ⟨reply, hr⟩, stands_invited_of_reply h hr hs, hs.2⟩
    -- a room that was shared before and one that the call makes would cross
    rcases he.isShared h.live hne hs with hold | ⟨rfl, me, handle, hc, hr, hab⟩ <;>
      rcases he.isShared h.live hne hs' with hold' | ⟨rfl, me', handle', hc', hr', hab'⟩
    · exact hone a b hne room room' hold hold'
    · exact absurd (hold.of_pair hab') (hcross hc' hr')
    · exact absurd (hold'.of_pair hab) (hcross hc hr)
    · rfl

/-- **Two people share at most one room all along a history exactly where no invitations cross.** -/
theorem sharesOnce_after_iff (h : s.Sound server) (hone : s.live.SharesOnce) (calls : List Call) :
    (∀ pre, pre <+: calls → (s.after server pre).live.SharesOnce) ↔
      ∀ pre c, pre ++ [c] <+: calls → ¬ c.Crosses server (s.after server pre) := by
  constructor
  · intro hall pre c hpre
    rw [← sharesOnce_next_iff (h.after pre) (hall pre ((List.prefix_append pre [c]).trans hpre)),
      ← after_concat]
    exact hall _ hpre
  · intro hno pre
    induction pre using List.reverseRecOn with
    | nil => exact fun _ => hone
    | append_singleton pre c ih =>
      intro hpre
      have hone' := ih ((List.prefix_append pre [c]).trans hpre)
      rw [after_concat, sharesOnce_next_iff (h.after pre) hone']
      exact hno pre c hpre

/-! ### One shared room of each maker -/

/-- The maker of a shared room lists it, so it makes no other chat of the two. -/
theorem not_isShared_of_reply (h : s.Sound server) {reply : Reply} {row : RoomRow}
    (hrow : row ∈ s.live.rooms)
    (hr : (Call.perform (some row.creator) (.create handle)).reply server s = .ok reply) :
    ¬ s.live.IsShared row.id row.creator (UserId.qualify handle server) := by
  intro hs
  have he := effect_call h.live (Call.perform (some row.creator) (.create handle))
  rw [hr] at he
  obtain ⟨hself, hfree, -⟩ := he.isShared_made h.live
  exact hfree ⟨row.id, h.live.maker_listed row hrow (hs.hasOther hself), hs.2⟩

theorem sharesOncePerMaker_next (h : s.Sound server) (hone : s.live.SharesOncePerMaker) (c : Call) :
    (c.next server s).live.SharesOncePerMaker := by
  have he := effect_call h.live c
  intro a b hne row hrow row' hrow' hmaker hs hs'
  have hold_mem : ∀ {r : RoomRow}, r ∈ (c.next server s).live.rooms →
      s.live.IsShared r.id a b → r ∈ s.live.rooms := by
    intro r hr hold
    rcases he.mem_rooms hr with hr | ⟨me, handle, -, rfl, -⟩
    · exact hr
    · have hm := hold.1.isSome
      rw [newRoom, h.live.member?_next] at hm
      cases hm
  have hnew : ∀ {r : RoomRow} {me handle}, r ∈ (c.next server s).live.rooms →
      r.id = roomName server s.nextRoom → c = .perform (some me) (.create handle) →
      r = s.newRoom server me := by
    rintro r me handle hr hid rfl
    rcases he.mem_rooms hr with hr | ⟨me', handle', hc, rfl, -⟩
    · exact absurd hid (h.live.ne_roomName_next hr)
    · cases hc
      rfl
  have hheld : ∀ {r : RoomRow} {me handle}, r ∈ s.live.rooms → r.creator = me →
      c = .perform (some me) (.create handle) → (∃ reply, c.reply server s = .ok reply) →
      ¬ s.live.IsShared r.id me (UserId.qualify handle server) := by
    rintro r me handle hr rfl rfl ⟨reply, hreply⟩
    exact not_isShared_of_reply h hr hreply
  rcases he.isShared h.live hne hs with hold | ⟨hid, me, handle, hc, hr, hab⟩ <;>
    rcases he.isShared h.live hne hs' with hold' | ⟨hid', me', handle', hc', hr', hab'⟩
  · exact hone a b hne row (hold_mem hrow hold) row' (hold_mem hrow' hold') hmaker hold hold'
  · have hcreator : row.creator = me' := by rw [hmaker, hnew hrow' hid' hc']; rfl
    exact absurd (hold.of_pair hab') (hheld (hold_mem hrow hold) hcreator hc' hr')
  · have hcreator : row'.creator = me := by rw [← hmaker, hnew hrow hid hc]; rfl
    exact absurd (hold'.of_pair hab) (hheld (hold_mem hrow' hold') hcreator hc hr)
  · rw [hnew hrow hid hc, hnew hrow' hid' hc]

theorem sharesOncePerMaker_after (h : s.Sound server) (hone : s.live.SharesOncePerMaker)
    (calls : List Call) : (s.after server calls).live.SharesOncePerMaker := by
  induction calls generalizing s with
  | nil => exact hone
  | cons c calls ih => exact ih (h.next c) (sharesOncePerMaker_next h hone c)

/-! ### Every history -/

/-- **How many rooms two people share, after every history.** It is one, all along the history,
exactly where no call crosses an invitation; in any case it is at most one of each maker; and who
has joined a shared room is refused another one. -/
theorem sharesOnce_history (server : String) (first number : Nat) (calls : List Call) :
    ((∀ pre, pre <+: calls → ((empty first number).after server pre).live.SharesOnce) ↔
      ∀ pre c, pre ++ [c] <+: calls → ¬ c.Crosses server ((empty first number).after server pre)) ∧
    let s := (empty first number).after server calls
    s.live.SharesOncePerMaker ∧ ∀ me handle room, me ≠ UserId.qualify handle server →
      s.live.Stands room me .joined → s.live.IsActive room (UserId.qualify handle server) →
      (Call.perform (some me) (.create handle)).reply server s = .error .chatExists := by
  have hempty := sound_empty server first number
  have hnone : ∀ room a, ¬ (empty first number).live.IsActive room a := by
    intro room a ha
    cases ha.isSome
  refine ⟨sharesOnce_after_iff hempty (fun _ _ _ room _ hs => absurd hs.1 (hnone _ _)) calls,
    sharesOncePerMaker_after hempty (fun _ _ _ _ hr => by cases hr) calls, ?_⟩
  intro me handle room hne hj ha
  have h := hempty.after calls
  obtain ⟨m, hm, hw⟩ := id hj
  have hl := h.live.joined_listed room me m hm hw
    (Tables.IsShared.hasOther ⟨Or.inl hj, ha⟩ hne)
  exact reply_create_held h (h.live.valid.user?_isSome_of_member? hj.isSome)
    (h.live.valid.user?_isSome_of_member? ha.isSome) ⟨room, hl, ha⟩

/-- Bob invites Alice while her invitation is open, and they share two rooms. -/
theorem sharesOnce_crossed :
    let calls := [.register "alice" none, .register "bob" none,
      .perform (some "@alice:localhost") (.create "bob"),
      .perform (some "@bob:localhost") (.create "alice")]
    ¬ ((empty 0 1).after "localhost" calls).live.SharesOnce := by
  intro calls hone
  have hrooms := hone "@alice:localhost" "@bob:localhost" (by decide) "!room1:localhost"
    "!room2:localhost" (by decide +kernel) (by decide +kernel)
  exact absurd hrooms (by decide)

end PairChat.Store
