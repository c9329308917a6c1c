import PairChat.Proofs.Identifiers
import PairChat.Proofs.Listing

/-!
# Coherence: what the tables of a store always look like

The users, rooms and records of a store that is only used through its accounts fit together
(`Tables.Coherent`): every user has a handle on the home server, every room has a record of its
maker and at most one more, and a record carries the direct flag as long as it is an invitation.
The registries fit to them (`Tables.Listed`): an account lists the rooms that it made or joined.
Both together are `Tables.Sound`.

A write keeps this wherever the written row does: one lemma for each way of writing, for
`Tables.Coherent` and for `Tables.Listed`.
-/

namespace PairChat.Store.Tables

open Account

/-- Users, rooms and records fit together. The clock has passed the rooms, and the number of the
next room is not in use. -/
structure Coherent (server : String) (clock next : Nat) (t : Tables) : Prop where
  /-- Keys and references are in order. -/
  valid : t.Valid
  /-- A user is a handle on the home server, and has a name. -/
  user_named : ∀ u ∈ t.users, ∃ handle name, Handle.fault? handle = none ∧ name ≠ "" ∧
    u.id = some (UserId.qualify handle server) ∧ u.displayName = some name
  room_named : ∀ r ∈ t.rooms, ∃ n < next, r.id = roomName server n
  room_dated : ∀ r ∈ t.rooms, r.createdAt < clock
  /-- The rooms stand in the order in which they were made. -/
  rooms_sorted : t.rooms.Pairwise fun a b => a.createdAt < b.createdAt
  /-- The maker of a room has a record in it, which is no invitation. -/
  maker_record : ∀ r ∈ t.rooms, ∃ m, t.member? r.id r.creator = some m ∧
    m.membership ≠ Membership.invited.wire
  /-- Besides its maker, a room has at most one participant. -/
  guest_unique : ∀ r ∈ t.rooms, ∀ u v, u ≠ r.creator → v ≠ r.creator →
    (t.member? r.id u).isSome → (t.member? r.id v).isSome → u = v
  word : ∀ m ∈ t.members, m.membership = Membership.invited.wire ∨
    m.membership = Membership.joined.wire ∨ m.membership = Membership.left.wire
  /-- An invitation carries the direct flag, and no other record carries any. -/
  flag : ∀ m ∈ t.members,
    m.isDirect = if m.membership = Membership.invited.wire then some true else none
  /-- A record shows the name of its user. -/
  name : ∀ m ∈ t.members, m.displayName = (t.user? m.userId).bind (·.displayName)

/-- Has somebody else than this user a record in the room? -/
def HasOther (t : Tables) (room user : String) : Prop := ∃ v ≠ user, (t.member? room v).isSome

/-- The registries fit to the records. -/
structure Listed (t : Tables) : Prop where
  /-- A registry holds no entry but that of its account. -/
  hasListing : ∀ user, t.HasListing user
  listing_nodup : ∀ user, (t.listing user).Nodup
  /-- In a listed room the account has a record, which is no invitation. -/
  listing_record : ∀ user, ∀ room ∈ t.listing user, ∃ m, t.member? room user = some m ∧
    m.membership ≠ Membership.invited.wire
  /-- A room that the account is in together with somebody is listed. -/
  joined_listed : ∀ room user m, t.member? room user = some m →
    m.membership = Membership.joined.wire → t.HasOther room user → room ∈ t.listing user
  /-- A room with two records is listed by its maker, also after the maker left it. -/
  maker_listed : ∀ r ∈ t.rooms, t.HasOther r.id r.creator → r.id ∈ t.listing r.creator

/-- **What the tables of a store always look like.** -/
structure Sound (server : String) (clock next : Nat) (t : Tables) : Prop
    extends Coherent server clock next t, Listed t

theorem sound_empty (server : String) (clock next : Nat) : Sound server clock next {} where
  valid := valid_empty
  user_named := by simp
  room_named := by simp
  room_dated := by simp
  rooms_sorted := List.Pairwise.nil
  maker_record := by simp
  guest_unique := by simp
  word := by simp
  flag := by simp
  name := by simp
  hasListing := by simp [HasListing, document?]
  listing_nodup _ := List.nodup_nil
  listing_record _ _ h := absurd h List.not_mem_nil
  joined_listed _ _ _ h := by cases h
  maker_listed := by simp

namespace Coherent

variable {server : String} {clock next : Nat} {t : Tables} (h : Coherent server clock next t)
include h

theorem mono {clock' next' : Nat} (hc : clock ≤ clock') (hn : next ≤ next') :
    Coherent server clock' next' t where
  valid := h.valid
  user_named := h.user_named
  room_named r hr := by
    obtain ⟨n, hlt, hid⟩ := h.room_named r hr
    exact ⟨n, by omega, hid⟩
  room_dated r hr := by
    have := h.room_dated r hr
    omega
  rooms_sorted := h.rooms_sorted
  maker_record := h.maker_record
  guest_unique := h.guest_unique
  word := h.word
  flag := h.flag
  name := h.name

/-- The names of the next rooms are free. -/
theorem room?_roomName {number : Nat} (hn : next ≤ number) :
    t.room? (roomName server number) = none := by
  rw [← Option.not_isSome_iff_eq_none, room?_isSome_iff]
  rintro ⟨r, hr, hid⟩
  obtain ⟨n, hlt, hname⟩ := h.room_named r hr
  have := roomName_injective (hname.symm.trans hid)
  omega

theorem room?_next : t.room? (roomName server next) = none := h.room?_roomName (Nat.le_refl _)

theorem member?_next (user : String) : t.member? (roomName server next) user = none :=
  h.valid.member?_eq_none h.room?_next user

theorem ne_roomName_next {r : RoomRow} (hr : r ∈ t.rooms) : r.id ≠ roomName server next :=
  ne_of_room?_eq_none h.room?_next hr

/-- Whoever has a record in a room with a guest is its maker or the guest. -/
theorem eq_creator_or_eq {r : RoomRow} (hr : r ∈ t.rooms) {u v w : String} (hu : u ≠ v)
    (hum : (t.member? r.id u).isSome) (hvm : (t.member? r.id v).isSome)
    (hwm : (t.member? r.id w).isSome) : w = u ∨ w = v := by
  by_cases hw : w = r.creator
  · by_cases huc : u = r.creator
    · exact Or.inl (hw.trans huc.symm)
    · by_cases hvc : v = r.creator
      · exact Or.inr (hw.trans hvc.symm)
      · exact absurd (h.guest_unique r hr u v huc hvc hum hvm) hu
  · by_cases huc : u = r.creator
    · have hvc : v ≠ r.creator := fun e => hu (huc.trans e.symm)
      exact Or.inr (h.guest_unique r hr w v hw hvc hwm hvm)
    · exact Or.inl (h.guest_unique r hr w u hw huc hwm hum)

/-! ### Registered accounts -/

/-- A registered account has a handle on the home server. -/
theorem exists_handle {user : String} (hu : (t.user? user).isSome) :
    ∃ handle, Handle.fault? handle = none ∧ UserId.qualify handle server = user := by
  obtain ⟨u, hu⟩ := Option.isSome_iff_exists.mp hu
  obtain ⟨hmem, hid⟩ := of_user?_eq_some hu
  obtain ⟨handle, -, hh, -, hq, -⟩ := h.user_named u hmem
  exact ⟨handle, hh, Option.some.inj (hq.symm.trans hid)⟩

theorem isName {user : String} (hu : (t.user? user).isSome) : IsName user where
  ne_empty := by
    obtain ⟨handle, -, rfl⟩ := h.exists_handle hu
    exact UserId.qualify_ne_empty handle server
  isEncodable := h.valid.isEncodable_of_user? hu

/-- A home server with an account on it has a name that can be encoded. -/
theorem isEncodable_server {user : String} (hu : (t.user? user).isSome) :
    Text.isEncodable server := by
  obtain ⟨handle, -, rfl⟩ := h.exists_handle hu
  exact UserId.isEncodable_of_qualify (h.valid.isEncodable_of_user? hu)

/-! ### Writing users, rooms and records -/

theorem withUser {handle name : String} (time : Nat) (hh : Handle.fault? handle = none)
    (hid : Text.isEncodable (UserId.qualify handle server)) (hne : name ≠ "")
    (hname : Text.isEncodable name) (hfree : t.user? (UserId.qualify handle server) = none) :
    Coherent server clock next
      (t.withUser ⟨some (UserId.qualify handle server), some name, time⟩) := by
  refine { h with valid := ?_, user_named := ?_, name := ?_ }
  · exact h.valid.withUser (bound_user time hid hname) fun id hid => Option.some.inj hid ▸ hfree
  · intro u hu
    rcases List.mem_append.mp hu with hu | hu
    · exact h.user_named u hu
    · rw [List.mem_singleton.mp hu]
      exact ⟨handle, name, hh, hne, rfl, rfl⟩
  · intro m hm
    obtain ⟨u, hu⟩ := Option.isSome_iff_exists.mp
      (h.valid.user?_isSome_of_member? (member?_isSome_of_mem hm))
    rw [user?_withUser, hu, Option.some_or, ← hu]
    exact h.name m hm

theorem withRecord {row : MemberRow} (hold : (t.member? row.roomId row.userId).isSome)
    (hword : row.membership = Membership.joined.wire ∨ row.membership = Membership.left.wire)
    (hflag : row.isDirect = none)
    (hname : row.displayName = (t.user? row.userId).bind (·.displayName)) :
    Coherent server clock next (t.withRecord row) := by
  have hinv : row.membership ≠ Membership.invited.wire := by
    rcases hword with e | e <;> rw [e] <;> decide
  have hmem : ∀ m ∈ (t.withRecord row).members, m = row ∨ m ∈ t.members := by
    intro m hm
    obtain ⟨r, hr, rfl⟩ := List.mem_map.mp hm
    split_ifs
    · exact Or.inl rfl
    · exact Or.inr hr
  refine { h with
    valid := ?_, maker_record := ?_, guest_unique := ?_, word := ?_, flag := ?_, name := ?_ }
  · exact h.valid.withRecord hold
  · intro r hr
    obtain ⟨m, hm, hne⟩ := h.maker_record r hr
    rw [member?_withRecord, hm]
    split_ifs
    · exact ⟨row, rfl, hinv⟩
    · exact ⟨m, rfl, hne⟩
  · intro r hr u v hu hv hum hvm
    rw [member?_withRecord_isSome] at hum hvm
    exact h.guest_unique r hr u v hu hv hum hvm
  · intro m hm
    rcases hmem m hm with rfl | hm
    · exact Or.inr hword
    · exact h.word m hm
  · intro m hm
    rcases hmem m hm with rfl | hm
    · rw [hflag, if_neg hinv]
    · exact h.flag m hm
  · intro m hm
    rcases hmem m hm with rfl | hm
    · exact hname
    · exact h.name m hm

theorem withDocument {row : DocumentRow} (hu : (t.user? row.userId).isSome) :
    Coherent server clock next (t.withDocument row) :=
  { h with valid := h.valid.withDocument hu }

theorem withListed {user : String} (room : String) (hu : (t.user? user).isSome) :
    Coherent server clock next (t.withListed user room) := by
  unfold Tables.withListed
  split_ifs
  · exact h
  · exact h.withDocument hu

end Coherent

/-! ### A new room -/

/-- The rows of a new room: its maker has joined it, and at most one guest is invited. -/
structure IsNewRoom (server : String) (clock next : Nat) (t : Tables) (room : RoomRow)
    (maker : MemberRow) (guests : List MemberRow) : Prop where
  id : room.id = roomName server next
  dated : room.createdAt = clock
  roomId : ∀ m ∈ maker :: guests, m.roomId = room.id
  user : ∀ m ∈ maker :: guests, (t.user? m.userId).isSome
  name : ∀ m ∈ maker :: guests, m.displayName = (t.user? m.userId).bind (·.displayName)
  creator : maker.userId = room.creator
  joined : maker.membership = Membership.joined.wire ∧ maker.isDirect = none
  guest_ne : ∀ g ∈ guests, g.userId ≠ room.creator
  invited : ∀ g ∈ guests, g.membership = Membership.invited.wire ∧ g.isDirect = some true
  length_le : guests.length ≤ 1

section NewRoom
variable {server : String} {clock next : Nat} {t : Tables} {room : RoomRow} {maker : MemberRow}
  {guests : List MemberRow}

theorem IsNewRoom.nodup (hn : IsNewRoom server clock next t room maker guests) :
    ((maker :: guests).map (·.userId)).Nodup := by
  rw [List.map_cons, List.nodup_cons]
  constructor
  · intro hm
    obtain ⟨g, hg, he⟩ := List.mem_map.mp hm
    exact hn.guest_ne g hg (he.trans hn.creator)
  · match guests, hn.length_le with
    | [], _ => exact List.nodup_nil
    | [g], _ => exact List.nodup_singleton _

/-- Two guests of a new room are one. -/
theorem IsNewRoom.guest_unique (hn : IsNewRoom server clock next t room maker guests)
    {m m' : MemberRow} (hm : m ∈ maker :: guests) (hm' : m' ∈ maker :: guests)
    (hne : m.userId ≠ room.creator) (hne' : m'.userId ≠ room.creator) : m = m' := by
  rcases List.mem_cons.mp hm with rfl | hm
  · exact absurd hn.creator hne
  · rcases List.mem_cons.mp hm' with rfl | hm'
    · exact absurd hn.creator hne'
    · match guests, hn.length_le, hm, hm' with
      | [g], _, hm, hm' => rw [List.mem_singleton.mp hm, List.mem_singleton.mp hm']

variable (h : Coherent server clock next t) (hn : IsNewRoom server clock next t room maker guests)
include h hn

/-- In the new room, only the records that it begins with are found. -/
theorem Coherent.member?_newRoom (user : String) :
    (t.withRoom room (maker :: guests)).member? room.id user =
      (maker :: guests).find? (isRecordOf room.id user) := by
  rw [member?_withRoom, hn.id, h.member?_next, Option.none_or]

theorem Coherent.exists_newRecord {user : String}
    (hm : ((t.withRoom room (maker :: guests)).member? room.id user).isSome) :
    ∃ m ∈ maker :: guests, m.userId = user := by
  rw [h.member?_newRoom hn, List.find?_isSome] at hm
  obtain ⟨m, hm, hk⟩ := hm
  exact ⟨m, hm, (Prod.mk.inj (isRecordOf_iff.mp hk)).2⟩

theorem Coherent.member?_maker :
    (t.withRoom room (maker :: guests)).member? room.id room.creator = some maker := by
  rw [h.member?_newRoom hn, List.find?_cons_of_pos]
  exact isRecordOf_iff.mpr (by rw [hn.roomId maker List.mem_cons_self, hn.creator])

theorem Coherent.member?_oldRoom {r : RoomRow} (hr : r ∈ t.rooms) (user : String) :
    (t.withRoom room (maker :: guests)).member? r.id user = t.member? r.id user :=
  member?_withRoom_of_ne hn.roomId (hn.id ▸ h.ne_roomName_next hr) user

theorem Coherent.withRoom :
    Coherent server (clock + 1) (next + 1) (t.withRoom room (maker :: guests)) where
  valid := by
    have hmaker : (t.user? room.creator).isSome := hn.creator ▸ hn.user maker List.mem_cons_self
    have hb : bound room.texts = .ok () := by
      refine bound_eq_ok_iff.mpr fun text htext => ?_
      rcases List.mem_pair.mp htext with rfl | rfl
      · rw [hn.id, isEncodable_roomName]
        exact h.isEncodable_server hmaker
      · exact h.valid.isEncodable_of_user? hmaker
    exact h.valid.withRoom hb (hn.id ▸ h.room?_next) hmaker
      (fun m hm => ⟨hn.roomId m hm, hn.user m hm⟩) hn.nodup
  user_named := h.user_named
  room_named := by
    refine forall_rooms_withRoom.mpr ⟨fun r hr => ?_, next, by omega, hn.id⟩
    obtain ⟨n, hlt, hid⟩ := h.room_named r hr
    exact ⟨n, by omega, hid⟩
  room_dated := by
    refine forall_rooms_withRoom.mpr ⟨fun r hr => ?_, by rw [hn.dated]; omega⟩
    have := h.room_dated r hr
    omega
  rooms_sorted := by
    refine List.pairwise_append.mpr ⟨h.rooms_sorted, List.pairwise_singleton _ _, ?_⟩
    intro a ha b hb
    rw [List.mem_singleton.mp hb, hn.dated]
    exact h.room_dated a ha
  maker_record := by
    refine forall_rooms_withRoom.mpr ⟨fun r hr => ?_, maker, h.member?_maker hn, ?_⟩
    · rw [h.member?_oldRoom hn hr]
      exact h.maker_record r hr
    · rw [hn.joined.1]
      decide
  guest_unique := by
    refine forall_rooms_withRoom.mpr ⟨fun r hr u v hu hv hum hvm => ?_, fun u v hu hv hum hvm => ?_⟩
    · rw [h.member?_oldRoom hn hr] at hum hvm
      exact h.guest_unique r hr u v hu hv hum hvm
    · obtain ⟨m, hm, rfl⟩ := h.exists_newRecord hn hum
      obtain ⟨m', hm', rfl⟩ := h.exists_newRecord hn hvm
      rw [hn.guest_unique hm hm' hu hv]
  word := by
    refine forall_members_withRoom.mpr ⟨h.word, fun m hm => ?_⟩
    rcases List.mem_cons.mp hm with rfl | hm
    · exact Or.inr (Or.inl hn.joined.1)
    · exact Or.inl (hn.invited m hm).1
  flag := by
    refine forall_members_withRoom.mpr ⟨h.flag, fun m hm => ?_⟩
    rcases List.mem_cons.mp hm with rfl | hm
    · rw [hn.joined.1, hn.joined.2]
      rfl
    · rw [(hn.invited m hm).1, (hn.invited m hm).2, if_pos rfl]
  name := forall_members_withRoom.mpr ⟨h.name, hn.name⟩

end NewRoom

/-! ### Listed rooms after a write -/

section HasOther
variable {t : Tables}

theorem hasOther_withRecord {row : MemberRow} {room user : String} :
    (t.withRecord row).HasOther room user ↔ t.HasOther room user := by
  simp only [HasOther, member?_withRecord_isSome]

theorem hasOther_withListed {user' room' room user : String} :
    (t.withListed user' room').HasOther room user ↔ t.HasOther room user := by
  simp only [HasOther, member?_withListed]

end HasOther

/-- The registries fit to the records, but one account may not list one room yet. -/
structure ListedBut (room user : String) (t : Tables) : Prop where
  hasListing : ∀ v, t.HasListing v
  listing_nodup : ∀ v, (t.listing v).Nodup
  listing_record : ∀ v, ∀ r ∈ t.listing v, ∃ m, t.member? r v = some m ∧
    m.membership ≠ Membership.invited.wire
  joined_listed : ∀ r v m, t.member? r v = some m → m.membership = Membership.joined.wire →
    t.HasOther r v → (r, v) ≠ (room, user) → r ∈ t.listing v
  maker_listed : ∀ r ∈ t.rooms, t.HasOther r.id r.creator → (r.id, r.creator) ≠ (room, user) →
    r.id ∈ t.listing r.creator

namespace ListedBut

variable {t : Tables} {room user : String} (h : ListedBut room user t)
include h

/-- A room that need not be listed may be left out. -/
theorem listed (hj : ∀ m, t.member? room user = some m → m.membership = Membership.joined.wire →
      t.HasOther room user → room ∈ t.listing user)
    (hm : ∀ r ∈ t.rooms, r.id = room → r.creator = user → t.HasOther room user →
      room ∈ t.listing user) : Listed t where
  hasListing := h.hasListing
  listing_nodup := h.listing_nodup
  listing_record := h.listing_record
  joined_listed r v m hr hjoined ho := by
    by_cases hk : (r, v) = (room, user)
    · obtain ⟨rfl, rfl⟩ := Prod.mk.inj hk
      exact hj m hr hjoined ho
    · exact h.joined_listed r v m hr hjoined ho hk
  maker_listed r hr ho := by
    by_cases hk : (r.id, r.creator) = (room, user)
    · obtain ⟨rfl, rfl⟩ := Prod.mk.inj hk
      exact hm r hr rfl rfl ho
    · exact h.maker_listed r hr ho hk

/-- The room that was left out is listed. -/
theorem withListed (hm : ∃ m, t.member? room user = some m ∧
    m.membership ≠ Membership.invited.wire) : Listed (t.withListed user room) where
  hasListing v := (h.hasListing v).withListed
  listing_nodup v := by
    rw [listing_withListed]
    split_ifs with hv
    · refine List.Nodup.append (h.listing_nodup user) (List.nodup_singleton room) ?_
      intro r hr hr'
      exact hv.2 (List.mem_singleton.mp hr' ▸ hr)
    · exact h.listing_nodup v
  listing_record v r hr := by
    rw [member?_withListed]
    rcases mem_listing_withListed.mp hr with hr | ⟨rfl, rfl⟩
    · exact h.listing_record v r hr
    · exact hm
  joined_listed r v m hr hj ho := by
    rw [member?_withListed] at hr
    rw [hasOther_withListed] at ho
    by_cases hk : (r, v) = (room, user)
    · obtain ⟨rfl, rfl⟩ := Prod.mk.inj hk
      exact mem_listing_withListed.mpr (Or.inr ⟨rfl, rfl⟩)
    · exact mem_listing_withListed.mpr (Or.inl (h.joined_listed r v m hr hj ho hk))
  maker_listed r hr ho := by
    rw [rooms_withListed] at hr
    rw [hasOther_withListed] at ho
    by_cases hk : (r.id, r.creator) = (room, user)
    · obtain ⟨rfl, rfl⟩ := Prod.mk.inj hk
      exact mem_listing_withListed.mpr (Or.inr ⟨rfl, rfl⟩)
    · exact mem_listing_withListed.mpr (Or.inl (h.maker_listed r hr ho hk))

end ListedBut

namespace Listed

variable {t : Tables} (h : Listed t)
include h

theorem withUser (row : UserRow) : Listed (t.withUser row) := { h with }

theorem withDocument {row : DocumentRow} (hrow : row.type ≠ registryType) :
    Listed (t.withDocument row) := by
  have hl : ∀ user, (t.withDocument row).listing user = t.listing user := fun user =>
    listing_withDocument_of_ne fun e => hrow (Prod.mk.inj e).2
  refine ⟨?_, ?_, ?_, ?_, ?_⟩
  · intro user d hd
    rw [document?_withDocument, if_neg fun e => hrow (Prod.mk.inj e).2.symm] at hd
    exact h.hasListing user d hd
  · intro user
    rw [hl]
    exact h.listing_nodup user
  · intro user
    rw [hl]
    exact h.listing_record user
  · intro room user m hm hj ho
    rw [hl]
    exact h.joined_listed room user m hm hj ho
  · intro r hr ho
    rw [hl]
    exact h.maker_listed r hr ho

/-- A record that is no invitation in the place of another one. -/
theorem withRecord (row : MemberRow) (hword : row.membership ≠ Membership.invited.wire) :
    ListedBut row.roomId row.userId (t.withRecord row) where
  hasListing := h.hasListing
  listing_nodup := h.listing_nodup
  listing_record v r hr := by
    obtain ⟨m, hm, hne⟩ := h.listing_record v r hr
    rw [member?_withRecord, hm]
    split_ifs
    · exact ⟨row, rfl, hword⟩
    · exact ⟨m, rfl, hne⟩
  joined_listed r v m hm hj ho hk := by
    rw [hasOther_withRecord] at ho
    rw [member?_withRecord, if_neg hk] at hm
    exact h.joined_listed r v m hm hj ho
  maker_listed r hr ho _ := h.maker_listed r hr (hasOther_withRecord.mp ho)

/-- A new room is all that its maker may not list yet. -/
theorem withRoom {server : String} {clock next : Nat} {room : RoomRow} {maker : MemberRow}
    {guests : List MemberRow} (hc : Coherent server clock next t)
    (hn : IsNewRoom server clock next t room maker guests) :
    ListedBut room.id room.creator (t.withRoom room (maker :: guests)) where
  hasListing := h.hasListing
  listing_nodup := h.listing_nodup
  listing_record v r hr := by
    obtain ⟨m, hm, hne⟩ := h.listing_record v r hr
    refine ⟨m, ?_, hne⟩
    rw [member?_withRoom, hm, Option.some_or]
  joined_listed r v m hm hj ho hk := by
    by_cases hr : r = room.id
    · subst hr
      -- whoever is in the new room besides its maker is invited
      rw [hc.member?_newRoom hn] at hm
      have hv := (Prod.mk.inj (isRecordOf_iff.mp (List.find?_some hm))).2
      rcases List.mem_cons.mp (List.mem_of_find?_eq_some hm) with rfl | hg
      · exact absurd (by rw [← hv, hn.creator]) hk
      · cases Membership.wire_injective ((hn.invited m hg).1.symm.trans hj)
    · simp only [HasOther, member?_withRoom_of_ne hn.roomId hr] at hm ho
      exact h.joined_listed r v m hm hj ho
  maker_listed := by
    refine forall_rooms_withRoom.mpr ⟨fun r hr ho _ => ?_, fun _ hk => absurd rfl hk⟩
    simp only [HasOther, hc.member?_oldRoom hn hr] at ho
    exact h.maker_listed r hr ho

end Listed

end PairChat.Store.Tables
