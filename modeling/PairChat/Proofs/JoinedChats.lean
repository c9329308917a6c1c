import PairChat.Proofs.History

/-!
# The list of joined chats

What an account is shown when it lists its chats, and what that leaves in the store.

* `Tables.IsChatList` describes the list: one entry for each room that the account holds open with
  somebody, in the order in which the rooms were made, with the handle and the name of the other.
* `remaining_joined`: the flags of the records never add a room, since an open room is listed.
* `sweeps_leftRooms`: only the records of the account in abandoned rooms change.
* An account that lists a room in which it is alone gets no answer: `joined_alone`.  Such a room is
  what an attempt to make a chat with oneself leaves behind, once it was accepted.
-/

namespace PairChat.Store

open PairChat.Action Account

namespace Tables

/-- The account has joined the room, and somebody else has not left it. -/
def IsOpen (t : Tables) (room me : String) : Prop :=
  t.Stands room me .joined ∧ ∃ user ≠ me, t.IsActive room user

/-- The account has joined the room, and somebody else has left it. -/
def IsAbandoned (t : Tables) (room me : String) : Prop :=
  t.Stands room me .joined ∧ ∃ user ≠ me, t.Stands room user .left

/-- The account has joined the room, lists it, and nobody else ever had a record in it. -/
def IsAlone (t : Tables) (room me : String) : Prop :=
  room ∈ t.listing me ∧ t.Stands room me .joined ∧ ¬ t.HasOther room me

/-- **The chats that an account has joined.** -/
structure IsChatList (server : String) (t : Tables) (me : String) (chats : List Chat) : Prop where
  /-- The entries stand in the order of the rooms, -/
  ordered : (chats.map (·.id)).Sublist (t.rooms.map (·.id))
  /-- which is the order in which the rooms were made. -/
  dated : t.rooms.Pairwise fun a b => a.createdAt < b.createdAt
  /-- No room has two entries. -/
  nodup : (chats.map (·.id)).Nodup
  /-- The rooms with an entry are the open ones. -/
  rooms : ∀ room, room ∈ chats.map (·.id) ↔ t.IsOpen room me
  /-- An entry shows the other participant, with the handle and the name of their account. -/
  other : ∀ x ∈ chats, ∃ user ≠ me, t.IsActive x.id user ∧
    UserId.qualify x.other.handle server = user ∧
    (t.user? user).bind (·.displayName) = some x.other.name

end Tables

/-- **The account leaves the rooms that others have abandoned, and nothing else changes.** -/
structure Sweeps (me : String) (s s' : Store) : Prop where
  users : s'.live.users = s.live.users
  rooms : s'.live.rooms = s.live.rooms
  documents : s'.live.documents = s.live.documents
  keys : (s'.live.members.map fun m => (m.roomId, m.userId)) =
    s.live.members.map fun m => (m.roomId, m.userId)
  left : ∀ room m, s.live.IsAbandoned room me → s.live.member? room me = some m →
    ∃ time, s'.live.member? room me =
      some { m with membership := Membership.left.wire, updatedAt := time }
  kept : ∀ room user, ¬ (user = me ∧ s.live.IsAbandoned room me) →
    s'.live.member? room user = s.live.member? room user

variable {s : Store} {t : Tables} {server me : String} {clock next : Nat}

/-! ### The rooms that remain -/

theorem ids_roomsIn (me : String) (t : Tables) :
    ((roomsIn me t).map (·.id)).Sublist (t.rooms.map (·.id)) := by
  have h : ∀ l : List RoomRow, (((l.filterMap fun room => (t.member? room.id me).map fun r =>
      (room, r.membership)).filterMap fun p => roomIn p.1.id p.2 t).map (·.id)).Sublist
        (l.map (·.id)) := by
    intro l
    induction l with
    | nil => exact List.Sublist.refl _
    | cons row l ih =>
      rw [List.filterMap_cons, List.map_cons]
      rcases t.member? row.id me with _ | m
      · exact ih.cons _
      · simp only [Option.map_some, List.filterMap_cons]
        rcases hw : roomIn row.id m.membership t with _ | x
        · exact ih.cons _
        · have hid : x.id = row.id := by
            obtain ⟨w, -, rfl⟩ := Option.map_eq_some_iff.mp hw
            rfl
          rw [List.map_cons, hid]
          exact ih.cons_cons _
  exact h t.rooms

/-- The joined rooms that an account lists and that nobody has left. -/
def qualifyingIn (me : String) (t : Tables) : List Room :=
  (Resolver.candidates (roomsIn me t) (t.listing me) .joined).filter fun r => !Resolver.isStale r

/-- The room of a listed chat that nobody has left is open, or the account is alone in it. -/
theorem isOpen_or_isAlone (h : t.Coherent server clock next) {room : String}
    (hl : room ∈ t.listing me) (hj : t.Stands room me .joined)
    (hno : ¬ ∃ v, t.Stands room v .left) : t.IsOpen room me ∨ t.IsAlone room me := by
  by_cases ho : t.HasOther room me
  · obtain ⟨v, hv, hm⟩ := ho
    exact Or.inl ⟨hj, v, hv, (h.isActive_or_left hm).resolve_right fun hw => hno ⟨v, hw⟩⟩
  · exact Or.inr ⟨hl, hj, ho⟩

/-- Nobody has left an open room, since it has no third participant. -/
theorem Tables.IsOpen.not_left (h : t.Coherent server clock next) {room : String}
    (ho : t.IsOpen room me) : ¬ ∃ v, t.Stands room v .left := by
  obtain ⟨hj, user, hne, ha⟩ := ho
  rintro ⟨v, hl⟩
  obtain ⟨row, hrow, rfl⟩ := h.exists_room hj.isSome
  rcases h.eq_creator_or_eq hrow hne.symm hj.isSome ha.isSome hl.isSome with rfl | rfl
  · cases Tables.Stands.unique hl hj
  · rcases ha with ha | ha <;> cases Tables.Stands.unique hl ha

theorem Tables.IsAlone.not_left {room : String} (ha : t.IsAlone room me) :
    ¬ ∃ v, t.Stands room v .left := by
  rintro ⟨v, hl⟩
  refine ha.2.2 ⟨v, ?_, hl.isSome⟩
  rintro rfl
  cases Tables.Stands.unique hl ha.2.1

theorem Tables.IsOpen.mem_listing (h : t.Listed) {room : String} (ho : t.IsOpen room me) :
    room ∈ t.listing me := by
  obtain ⟨⟨m, hm, hw⟩, user, hne, ha⟩ := ho
  exact h.joined_listed room me m hm hw ⟨user, hne, ha.isSome⟩

theorem mem_qualifyingIn (h : t.Sound server clock next) {x : Room} :
    x ∈ qualifyingIn me t ↔ x ∈ roomsIn me t ∧ (t.IsOpen x.id me ∨ t.IsAlone x.id me) := by
  simp only [qualifyingIn, List.mem_filter, mem_candidates, Bool.not_eq_true']
  constructor
  · rintro ⟨⟨hx, hw, hl⟩, hs⟩
    refine ⟨hx, isOpen_or_isAlone h.toCoherent hl (hw ▸ stands_of_mem_roomsIn hx) fun hleft => ?_⟩
    rw [(isStale_iff h.valid hx).mpr hleft] at hs
    cases hs
  · rintro ⟨hx, hopen⟩
    have hfacts : t.Stands x.id me .joined ∧ x.id ∈ t.listing me ∧
        ¬ ∃ v, t.Stands x.id v .left := by
      rcases hopen with ho | ha
      · exact ⟨ho.1, ho.mem_listing h.toListed, ho.not_left h.toCoherent⟩
      · exact ⟨ha.2.1, ha.1, ha.not_left⟩
    obtain ⟨hj, hl, hno⟩ := hfacts
    refine ⟨⟨hx, Tables.Stands.unique (stands_of_mem_roomsIn hx) hj, hl⟩, ?_⟩
    rw [Bool.eq_false_iff]
    exact fun hs => hno ((isStale_iff h.valid hx).mp hs)

/-- **The flags of the records never add a room**: a joined room with a flag is open, so it is
listed. -/
theorem remaining_joined (h : t.Sound server clock next) :
    Resolver.remaining (roomsIn me t) (t.listing me) .joined = qualifyingIn me t := by
  have hr : Resolver.remaining (roomsIn me t) (t.listing me) .joined =
      if (qualifyingIn me t).isEmpty then Resolver.flagged (roomsIn me t) .joined
      else qualifyingIn me t := rfl
  rw [hr]
  split_ifs with he
  · rw [List.isEmpty_iff] at he
    rw [he, Resolver.flagged, List.filter_eq_nil_iff]
    intro x hx hf
    obtain ⟨hw, hd⟩ := Bool.and_eq_true_iff.mp hf
    have hj : t.Stands x.id me .joined := eq_of_beq hw ▸ stands_of_mem_roomsIn hx
    obtain ⟨y, hy, hyd⟩ := Room.hasDirectFlag_iff.mp hd
    rw [members_of_mem_roomsIn hx] at hy
    obtain ⟨r, hmr, hyr⟩ := (mem_membersIn h.valid).mp hy
    obtain ⟨-, hye⟩ := memberOfRow_eq_some_iff.mp hyr
    have hi : r.membership = Membership.invited.wire := by
      have hflag := h.flag r (Tables.of_member?_eq_some hmr).1
      rw [hye] at hyd
      by_contra hne
      rw [if_neg hne] at hflag
      cases hflag.symm.trans hyd
    have hs : t.Stands x.id r.userId .invited := ⟨r, hmr, hi⟩
    have hne : r.userId ≠ me := by
      intro e
      rw [e] at hs
      cases Tables.Stands.unique hs hj
    have hq := (mem_qualifyingIn h).mpr ⟨hx, Or.inl ⟨hj, r.userId, hne, Or.inr hs⟩⟩
    rw [he] at hq
    cases hq
  · rfl

/-! ### What changes -/

theorem exists_mem_staleIn (h : t.Sound server clock next) {room : String} :
    (∃ x ∈ staleIn me t, x.id = room) ↔ t.IsAbandoned room me := by
  constructor
  · rintro ⟨x, hx, rfl⟩
    obtain ⟨-, hj, v, hl⟩ := (mem_staleIn h).mp hx
    refine ⟨hj, v, ?_, hl⟩
    rintro rfl
    cases Tables.Stands.unique hj hl
  · rintro ⟨hj, v, -, hl⟩
    exact ⟨_, (mem_staleIn h).mpr ⟨mem_roomsIn_of_stands h.valid hj, hj, v, hl⟩, rfl⟩

theorem sweeps_leftRooms (h : s.live.Sound server clock next) :
    Sweeps me s (s.leftRooms me (staleIn me s.live)) where
  users := by rw [live_leftRooms]
  rooms := by rw [live_leftRooms]
  documents := by rw [live_leftRooms]
  keys := keys_leftRooms _
  left room m ha hm := by
    obtain ⟨time, htime⟩ := member?_leftRooms_self ((exists_mem_staleIn h).mpr ha)
      (by rw [hm]; rfl)
    obtain ⟨hmem, rfl, rfl⟩ := Tables.of_member?_eq_some hm
    obtain ⟨m', hm', hj⟩ := ha.1
    obtain rfl := Option.some.inj (hm.symm.trans hm')
    -- a record that has joined carries no flag
    have hflag : m.isDirect = none := by
      rw [h.flag m hmem, hj]
      rfl
    refine ⟨time, htime.trans ?_⟩
    rw [← h.name m hmem, ← hflag]
  kept room user hno := by
    refine member?_leftRooms_of_ne fun hu x hx hid => ?_
    exact hno ⟨hu, (exists_mem_staleIn h).mp ⟨x, hx, hid⟩⟩

/-! ### The answer -/

section Answer
variable (hme : IsName me) (h : s.Sound server)
include hme h

theorem outcome_joined_eq :
    (Lifecycle.joined (acting server (some me)).provider).outcome s =
      ((qualifyingIn me s.live).mapM fun x => (Lifecycle.otherContact (.text me)
        (membersIn x.id (s.leftRooms me (staleIn me s.live)).live)).map fun c => ⟨chatId x.id, c⟩,
        s.leftRooms me (staleIn me s.live)) := by
  rw [outcome_joined hme h.live, remaining_joined h.live]

omit hme

theorem coherent_swept : (s.leftRooms me (staleIn me s.live)).live.Coherent server
    (s.leftRooms me (staleIn me s.live)).clock (s.leftRooms me (staleIn me s.live)).nextRoom :=
  (sound_leftRooms h.live h.saved fun _ hx =>
    (member?_isSome_of_mem_roomsIn ((mem_staleIn h.live).mp hx).1).2).live.toCoherent

/-- The contact in an open room, read after the abandoned rooms were left. -/
theorem otherContact_open {room : String} (ho : s.live.IsOpen room me) :
    ∃ c, Lifecycle.otherContact (.text me)
        (membersIn room (s.leftRooms me (staleIn me s.live)).live) = .ok c ∧
      ∃ user ≠ me, s.live.IsActive room user ∧ UserId.qualify c.handle server = user ∧
        (s.live.user? user).bind (·.displayName) = some c.name := by
  obtain ⟨hj, user, hne, ha⟩ := ho
  have hjs := hj.isSome
  have has := ha.isSome
  rw [← member?_leftRooms_isSome me (staleIn me s.live)] at hjs has
  obtain ⟨handle, name, hq, hname, hc⟩ := otherContact_of_other (coherent_swept h) hjs hne has
  rw [user?_leftRooms] at hname
  exact ⟨_, hc, user, hne, ha, hq, hname⟩

theorem otherContact_alone_swept {room : String} (ha : s.live.IsAlone room me) :
    Lifecycle.otherContact (.text me)
      (membersIn room (s.leftRooms me (staleIn me s.live)).live) = .error .alone := by
  refine otherContact_alone (coherent_swept h) ?_
  rintro ⟨v, hv, hm⟩
  rw [member?_leftRooms_isSome] at hm
  exact ha.2.2 ⟨v, hv, hm⟩

include hme

/-- **An account that is alone in no listed room is answered with the list of its chats.** -/
theorem joined_answered (hno : ∀ room, ¬ s.live.IsAlone room me) : ∃ chats,
    (Lifecycle.joined (acting server (some me)).provider).outcome s =
      (.ok chats, s.leftRooms me (staleIn me s.live)) ∧ s.live.IsChatList server me chats := by
  have hopen : ∀ x ∈ qualifyingIn me s.live, s.live.IsOpen x.id me := by
    intro x hx
    exact ((mem_qualifyingIn h.live).mp hx).2.resolve_right (hno x.id)
  obtain ⟨chats, hchats, hids, hother⟩ := exists_mapM_eq_ok Chat.id Room.id
    (fun x => ∃ user ≠ me, s.live.IsActive x.id user ∧
      UserId.qualify x.other.handle server = user ∧
      (s.live.user? user).bind (·.displayName) = some x.other.name)
    (f := fun x => (Lifecycle.otherContact (.text me)
      (membersIn x.id (s.leftRooms me (staleIn me s.live)).live)).map fun c => ⟨chatId x.id, c⟩)
    (qualifyingIn me s.live) (fun x hx => by
      obtain ⟨c, hc, hu⟩ := otherContact_open h (hopen x hx)
      exact ⟨⟨chatId x.id, c⟩, by rw [hc]; rfl, rfl, hu⟩)
  have hsub : ((qualifyingIn me s.live).map (·.id)).Sublist (s.live.rooms.map (·.id)) := by
    refine List.Sublist.trans (List.Sublist.map _ ?_) (ids_roomsIn me s.live)
    exact List.filter_sublist.trans List.filter_sublist
  refine ⟨chats, by rw [outcome_joined_eq hme h, hchats], ?_⟩
  refine ⟨hids ▸ hsub, h.live.rooms_sorted, ?_, fun room => ?_, hother⟩
  · rw [hids]
    exact hsub.nodup h.live.valid.rooms_nodup
  · rw [hids, List.mem_map]
    constructor
    · rintro ⟨x, hx, rfl⟩
      exact hopen x hx
    · intro ho
      have hx := mem_roomsIn_of_stands h.live.valid ho.1
      exact ⟨_, (mem_qualifyingIn h.live).mpr ⟨hx, Or.inl ho⟩, rfl⟩

/-- An account that is alone in a listed room gets no list. -/
theorem joined_alone (ha : ∃ room, s.live.IsAlone room me) :
    (Lifecycle.joined (acting server (some me)).provider).outcome s =
      (.error .alone, s.leftRooms me (staleIn me s.live)) := by
  rw [outcome_joined_eq hme h, mapM_eq_error (e := Failure.alone)]
  · intro x hx
    rcases ((mem_qualifyingIn h.live).mp hx).2 with ho | ha
    · obtain ⟨c, hc, -⟩ := otherContact_open h ho
      exact Or.inr ⟨⟨chatId x.id, c⟩, by rw [hc]; rfl⟩
    · exact Or.inl (by rw [otherContact_alone_swept h ha]; rfl)
  · obtain ⟨room, ha⟩ := ha
    have hx := mem_roomsIn_of_stands h.live.valid ha.2.1
    refine ⟨_, (mem_qualifyingIn h.live).mpr ⟨hx, Or.inr ha⟩, ?_⟩
    rw [otherContact_alone_swept h ha]
    rfl

end Answer

/-! ### Every history -/

/-- A room that an account is alone in is what is left of its attempt to make a chat with itself. -/
theorem isLeftover_of_alone (server : String) (first number : Nat) (calls : List Call)
    {room : String} (ha : ((empty first number).after server calls).live.IsAlone room me) :
    ∃ row, row.id = room ∧ row.creator = me ∧
      IsLeftover server (empty first number) calls row := by
  have h := (sound_after server first number calls).live
  obtain ⟨-, hj, hno⟩ := ha
  obtain ⟨row, hrow, rfl⟩ := h.toCoherent.exists_room hj.isSome
  have hc : row.creator = me := by
    by_contra hne
    obtain ⟨m, hm, -⟩ := h.maker_record row hrow
    exact hno ⟨row.creator, hne, by rw [hm]; rfl⟩
  refine ⟨row, rfl, hc, ?_⟩
  have hempty := sound_empty server first number
  rcases mem_rooms_or_isLeftover hempty calls hrow (hc ▸ hno) with hs | hl
  · cases hs
  · exact hl

/-- **Listing the chats of an account, after every history.** It leaves the abandoned rooms and
changes nothing else, and the answer is the list of its chats, unless the account accepted a room
that was left of its own attempt to make a chat with itself. -/
theorem joined_exact (server : String) (first number : Nat) (calls : List Call) (me : String)
    (hu : (((empty first number).after server calls).live.user? me).isSome) :
    let s := (empty first number).after server calls
    let list := Call.perform (some me) .joined
    Sweeps me s (list.next server s) ∧
      ((∃ chats, list.reply server s = .ok (.answered (.chats chats)) ∧
        s.live.IsChatList server me chats) ↔ ∀ room, ¬ s.live.IsAlone room me) ∧
      ∀ room, s.live.IsAlone room me → list.reply server s = .error .alone ∧
        ∃ row, row.id = room ∧ row.creator = me ∧
          IsLeftover server (empty first number) calls row := by
  intro s list
  have h : s.Sound server := sound_after server first number calls
  have hme : IsName me := h.live.toCoherent.isName hu
  have hfail : ∀ room, s.live.IsAlone room me → list.reply server s = .error .alone :=
    fun room ha => reply_perform .joined (outcome_bind_pure _ (joined_alone hme h ⟨room, ha⟩))
  refine ⟨?_, ⟨?_, ?_⟩, fun room ha =>
    ⟨hfail room ha, isLeftover_of_alone server first number calls ha⟩⟩
  · rw [next_perform .joined (outcome_bind_pure _ (outcome_joined_eq hme h))]
    exact sweeps_leftRooms h.live
  · rintro ⟨chats, hr, -⟩ room ha
    cases hr.symm.trans (hfail room ha)
  · intro hno
    obtain ⟨chats, ho, hl⟩ := joined_answered hme h hno
    exact ⟨chats, reply_perform .joined (outcome_bind_pure _ ho), hl⟩

/-- Alice has invited Bob. -/
theorem joined_exact_invited :
    let s := (empty 0 1).after "localhost" [.register "alice" none, .register "bob" none,
      .perform (some "@alice:localhost") (.create "bob")]
    (s.live.user? "@alice:localhost").isSome ∧ ∃ chats,
      (Call.perform (some "@alice:localhost") .joined).reply "localhost" s =
        .ok (.answered (.chats chats)) ∧
      s.live.IsChatList "localhost" "@alice:localhost" chats := by
  refine ⟨by decide +kernel, (joined_exact "localhost" 0 1 _ _ (by decide +kernel)).2.1.mpr ?_⟩
  rintro room ⟨hl, -, hno⟩
  refine hno ⟨"@bob:localhost", by decide, ?_⟩
  have hlisting : ((empty 0 1).after "localhost" [.register "alice" none, .register "bob" none,
      .perform (some "@alice:localhost") (.create "bob")]).live.listing "@alice:localhost" =
      ["!room1:localhost"] := by decide +kernel
  rw [hlisting, List.mem_singleton] at hl
  subst hl
  decide +kernel

/-- Alice accepts what is left of a chat with herself, and cannot list her chats any more. -/
theorem joined_own_room :
    let s := (empty 0 1).after "localhost" [.register "alice" none,
      .perform (some "@alice:localhost") (.create "alice"),
      .perform (some "@alice:localhost") (.accept "!room1:localhost")]
    (s.live.user? "@alice:localhost").isSome ∧
      (Call.perform (some "@alice:localhost") .joined).reply "localhost" s = .error .alone := by
  decide +kernel

end PairChat.Store
