import PairChat.Resolver
import PairChat.Proofs.Acting

/-!
# Resolution on a store

What resolution reads and leaves, for an account of a store.  The rooms that the account sees are
those that it has a record in (`mem_roomsIn`), with the records of all members (`mem_membersIn`).

* `outcome_resolve`: the answer is given by the rooms and the registry as they are read, and every
  stale room is left, one after the other (`Store.leftRooms`).
* `outcome_hasChat`: a chat exists if a listed room holds the counterparty; the store stays as it
  is.
-/

namespace PairChat.Store

open PairChat.Action Resolver

variable {s : Store} {t : Tables} {server me : String}

/-- The store after an account left some rooms, one after the other. -/
def leftRooms (s : Store) (me : String) (rooms : List Room) : Store :=
  rooms.foldl (fun s r => s.leftRoom me r.id) s

/-! ### Leaving rooms -/

@[simp] theorem leftRooms_nil : s.leftRooms me [] = s := rfl

@[simp] theorem leftRooms_cons (x : Room) (rooms : List Room) :
    s.leftRooms me (x :: rooms) = (s.leftRoom me x.id).leftRooms me rooms := rfl

/-- Leaving rooms changes records only. -/
theorem live_leftRooms (rooms : List Room) :
    (s.leftRooms me rooms).live =
      { s.live with members := (s.leftRooms me rooms).live.members } := by
  induction rooms generalizing s with
  | nil => rfl
  | cons x rooms ih => rw [leftRooms_cons, ih, live_leftRoom, Tables.withRecord]

theorem keys_leftRooms (rooms : List Room) :
    ((s.leftRooms me rooms).live.members.map fun m => (m.roomId, m.userId)) =
      s.live.members.map fun m => (m.roomId, m.userId) := by
  induction rooms generalizing s with
  | nil => rfl
  | cons x rooms ih => rw [leftRooms_cons, ih, live_leftRoom, Tables.keys_withRecord]

theorem room?_leftRooms (me : String) (rooms : List Room) (id : String) :
    (s.leftRooms me rooms).live.room? id = s.live.room? id := by
  rw [live_leftRooms]
  rfl

theorem user?_leftRooms (me : String) (rooms : List Room) (id : String) :
    (s.leftRooms me rooms).live.user? id = s.live.user? id := by
  rw [live_leftRooms]
  rfl

theorem member?_leftRooms_isSome (me : String) (rooms : List Room) (room user : String) :
    ((s.leftRooms me rooms).live.member? room user).isSome = (s.live.member? room user).isSome := by
  induction rooms generalizing s with
  | nil => rfl
  | cons x rooms ih => rw [leftRooms_cons, ih, live_leftRoom, Tables.member?_withRecord_isSome]

/-- The records of others, and those in other rooms, stay as they are. -/
theorem member?_leftRooms_of_ne {rooms : List Room} {room user : String}
    (h : user = me → ∀ x ∈ rooms, x.id ≠ room) :
    (s.leftRooms me rooms).live.member? room user = s.live.member? room user := by
  induction rooms generalizing s with
  | nil => rfl
  | cons x rooms ih =>
    rw [leftRooms_cons, ih fun hu y hy => h hu y (List.mem_cons_of_mem x hy), live_leftRoom,
      Tables.member?_withRecord, if_neg]
    intro hk
    obtain ⟨hroom, huser⟩ := Prod.mk.inj hk
    exact h huser x List.mem_cons_self hroom.symm

/-- The records of the account in the rooms that it left. -/
theorem member?_leftRooms_self {rooms : List Room} {room : String}
    (h : ∃ x ∈ rooms, x.id = room) (hm : (s.live.member? room me).isSome) :
    ∃ time, (s.leftRooms me rooms).live.member? room me = some ⟨room, me, Membership.left.wire,
      (s.live.user? me).bind (·.displayName), none, time⟩ := by
  induction rooms generalizing s with
  | nil => simp at h
  | cons x rooms ih =>
    rw [leftRooms_cons]
    by_cases hl : ∃ y ∈ rooms, y.id = room
    · refine ih hl ?_
      rw [live_leftRoom, Tables.member?_withRecord_isSome]
      exact hm
    · have hx : x.id = room := by
        obtain ⟨y, hy, hid⟩ := h
        rcases List.mem_cons.mp hy with rfl | hy
        · exact hid
        · exact absurd ⟨y, hy, hid⟩ hl
      obtain ⟨old, hold⟩ := Option.isSome_iff_exists.mp hm
      rw [member?_leftRooms_of_ne fun _ y hy hid => hl ⟨y, hy, hid⟩, live_leftRoom,
        Tables.member?_withRecord, if_pos (by rw [← hx]; rfl), hold, ← hx]
      exact ⟨s.clock, rfl⟩

namespace Account

/-! ### What is seen -/

theorem mem_roomsIn {x : Room} : x ∈ roomsIn me t ↔ ∃ row ∈ t.rooms, ∃ r m,
    t.member? row.id me = some r ∧ Membership.ofWire? r.membership = some m ∧
      x = ⟨row.id, m, membersIn row.id t⟩ := by
  simp only [roomsIn, Tables.roomsOf, List.mem_filterMap, Option.map_eq_some_iff, roomIn]
  constructor
  · rintro ⟨p, ⟨row, hrow, r, hr, rfl⟩, m, hm, rfl⟩
    exact ⟨row, hrow, r, m, hr, hm, rfl⟩
  · rintro ⟨row, hrow, r, m, hr, hm, rfl⟩
    exact ⟨(row, r.membership), ⟨row, hrow, r, hr, rfl⟩, m, hm, rfl⟩

theorem roomsIn_eq (me : String) (t : Tables) : roomsIn me t = t.rooms.filterMap fun row =>
    (t.member? row.id me).bind fun r => roomIn row.id r.membership t := by
  rw [roomsIn, Tables.roomsOf, List.filterMap_filterMap]
  refine List.filterMap_congr fun row _ => ?_
  rcases t.member? row.id me with _ | r <;> rfl

theorem mem_membersIn (hv : t.Valid) {room : String} {x : Member} : x ∈ membersIn room t ↔
    ∃ r, t.member? room r.userId = some r ∧ memberOfRow r = some x := by
  simp only [membersIn, List.mem_filterMap, hv.mem_membersOf]

theorem memberOfRow_eq_some_iff {r : MemberRow} {x : Member} : memberOfRow r = some x ↔
    x.membership.wire = r.membership ∧ x = ⟨r.userId, x.membership, r.displayName, r.isDirect⟩ := by
  simp only [memberOfRow, Option.map_eq_some_iff, Membership.ofWire?_eq_some_iff]
  constructor
  · rintro ⟨m, hm, rfl⟩
    exact ⟨hm, rfl⟩
  · rintro ⟨hm, hx⟩
    exact ⟨x.membership, hm, hx.symm⟩

theorem member?_isSome_of_mem_roomsIn {x : Room} (h : x ∈ roomsIn me t) :
    (t.room? x.id).isSome ∧ (t.member? x.id me).isSome := by
  obtain ⟨row, hrow, r, m, hr, -, rfl⟩ := mem_roomsIn.mp h
  exact ⟨Tables.room?_isSome_iff.mpr ⟨row, hrow, rfl⟩, by rw [hr]; rfl⟩

theorem members_of_mem_roomsIn {x : Room} (h : x ∈ roomsIn me t) :
    x.members = membersIn x.id t := by
  obtain ⟨row, -, r, m, -, -, rfl⟩ := mem_roomsIn.mp h
  rfl

/-! ### Resolving -/

variable {reg : Option (Registry String)}

/-- The rooms that the registry of an account lists under an owner. -/
def listedIn (me : String) (owner : Value) (t : Tables) : Except Failure (List String) := do
  Resolver.listed ((← registryIn me t).getD []) owner

/-- The listed rooms in a state that some member has left. -/
def staleOf (me : String) (t : Tables) (listed : List String) (m : Membership) : List Room :=
  (candidates (roomsIn me t) listed m).filter isStale

theorem knownOwner_text {owner : String} (h : owner ≠ "") :
    knownOwner (.text owner) = .ok (.text owner) :=
  knownOwner_eq_ok (by simpa [Value.isEmpty, Scalar.isEmpty] using h)

section NoSession
variable {user : Option String} {e : Failure} (hs : sessionIn user [] = .error e)
include hs

/-- Without a session nothing is fetched. -/
theorem outcome_fetch_refused :
    (fetch (acting server user).provider).outcome s = (.error e, s) := by
  have hsession : ((acting server user).session []).outcome s = (.error e, s) :=
    (outcome_session_eq user []).trans (by rw [hs])
  have hrooms : (acting server user).provider.rooms.outcome s = (.error e, s) :=
    outcome_bind_error hsession
  have hreg : (acting server user).provider.registry?.outcome s = (.error e, s) :=
    outcome_bind_error hsession
  simp only [fetch, outcome_bind, outcome_attempt, hrooms, hreg, outcome_lift]

variable {owner : Value} (howner : knownOwner owner = .ok owner)
include howner

theorem outcome_resolve_refused (m : Membership) :
    (resolve (acting server user).provider owner m).outcome s = (.error e, s) := by
  simp only [resolve, outcome_bind, outcome_lift, howner, outcome_fetch_refused hs]

theorem outcome_hasChat_refused (hne : owner ≠ .null) (other : String) :
    (hasChat (acting server user).provider other owner).outcome s = (.error e, s) := by
  simp only [hasChat, hne, if_false, outcome_bind, outcome_pure, outcome_lift, howner,
    outcome_fetch_refused hs]

end NoSession

section Acting
variable (hme : IsName me)
include hme

theorem outcome_fetch (hreg : registryIn me s.live = .ok reg) :
    (fetch (acting server (some me)).provider).outcome s =
      (.ok (roomsIn me s.live, reg.getD []), s) := by
  simp only [fetch, outcome_bind, outcome_attempt, outcome_rooms hme, outcome_registry hme,
    outcome_lift, hreg, outcome_pure]

theorem outcome_fetch_error {e : Failure} (hreg : registryIn me s.live = .error e) :
    (fetch (acting server (some me)).provider).outcome s = (.error e, s) := by
  simp only [fetch, outcome_bind, outcome_attempt, outcome_rooms hme, outcome_registry hme,
    outcome_lift, hreg]

/-- The records that are written when rooms are left can be bound one after the other if they can be
bound at all, since no names of users change. -/
theorem outcome_leaveAll {rooms : List Room}
    (h : ∀ x ∈ rooms, (s.live.member? x.id me).isSome ∧
      bound (s.record x.id me Membership.left.wire).texts = .ok ()) :
    (rooms.forM fun x => (acting server (some me)).provider.leave x.id).outcome s =
      (.ok (), s.leftRooms me rooms) := by
  refine outcome_forM (P := fun s x => (s.live.member? x.id me).isSome ∧
      bound (s.record x.id me Membership.left.wire).texts = .ok ())
    (fun s x hx => outcome_leave hme hx.2 hx.1) (fun s x y _ hy => ?_) rooms s h
  refine ⟨?_, hy.2⟩
  rw [live_leftRoom, Tables.member?_withRecord_isSome]
  exact hy.1

/-- Resolving comes down to leaving the stale rooms. -/
theorem outcome_resolve_eq {owner : Value} {listed : List String}
    (howner : knownOwner owner = .ok owner) (m : Membership)
    (hl : listedIn me owner s.live = .ok listed) :
    (resolve (acting server (some me)).provider owner m).outcome s =
      ((staleOf me s.live listed m).forM
          (fun x => (acting server (some me)).provider.leave x.id) >>=
        fun _ => pure (remaining (roomsIn me s.live) listed m)).outcome s := by
  rcases hreg : registryIn me s.live with e | reg <;> rw [listedIn, hreg] at hl
  · cases hl
  · have hl' : Resolver.listed (reg.getD []) owner = .ok listed := hl
    rw [resolve_eq, outcome_bind_ok (x := owner) (by rw [howner]; rfl),
      outcome_bind_ok (outcome_fetch hme hreg)]
    exact outcome_bind_ok (x := listed) (by rw [hl']; rfl)

/-- **Resolution on a store.** -/
theorem outcome_resolve {owner : Value} {listed : List String}
    (howner : knownOwner owner = .ok owner) (m : Membership)
    (hl : listedIn me owner s.live = .ok listed)
    (hb : ∀ x ∈ staleOf me s.live listed m,
      bound (s.record x.id me Membership.left.wire).texts = .ok ()) :
    (resolve (acting server (some me)).provider owner m).outcome s =
      (.ok (remaining (roomsIn me s.live) listed m),
        s.leftRooms me (staleOf me s.live listed m)) := by
  have hleave : ∀ x ∈ staleOf me s.live listed m, (s.live.member? x.id me).isSome ∧
      bound (s.record x.id me Membership.left.wire).texts = .ok () := by
    intro x hx
    have hx' := List.mem_of_mem_filter (List.mem_of_mem_filter hx)
    exact ⟨(member?_isSome_of_mem_roomsIn hx').2, hb x hx⟩
  rw [outcome_resolve_eq hme howner m hl, outcome_bind_ok (outcome_leaveAll hme hleave),
    outcome_pure]

theorem outcome_resolve_error {owner : Value} (howner : knownOwner owner = .ok owner)
    (m : Membership) {e : Failure} (hl : listedIn me owner s.live = .error e) :
    (resolve (acting server (some me)).provider owner m).outcome s = (.error e, s) := by
  rcases hreg : registryIn me s.live with e' | reg <;> rw [listedIn, hreg] at hl
  · cases hl
    simp only [resolve, outcome_bind, outcome_lift, howner, outcome_fetch_error hme hreg]
  · have hl' : Resolver.listed (reg.getD []) owner = .error e := hl
    simp only [resolve, outcome_bind, outcome_lift, howner, outcome_fetch hme hreg, hl']

/-- **The existence of a chat on a store.** -/
theorem outcome_hasChat (hv : s.live.Valid) {owner : String} (howner : owner ≠ "") (user : String)
    (hreg : registryIn me s.live = .ok reg) :
    (hasChat (acting server (some me)).provider user (.text owner)).outcome s =
      (.ok (((roomsIn me s.live).filter fun x =>
        ((reg.getD []).roomsOf owner).contains x.id).any fun x =>
          holds user (some x.members)), s) := by
  have hread : ∀ x ∈ (roomsIn me s.live).filter fun x =>
      ((reg.getD []).roomsOf owner).contains x.id,
      ((acting server (some me)).provider.members? x.id >>= fun members =>
        (pure (holds user members) : Action Store Bool)).outcome s =
        (.ok (holds user (some x.members)), s) := by
    intro x hx
    have hx' := List.mem_of_mem_filter hx
    obtain ⟨hroom, hmember⟩ := member?_isSome_of_mem_roomsIn hx'
    rw [outcome_bind_ok
      (outcome_members? hme (hv.isEncodable_of_room? hroom) hroom hmember), outcome_pure,
      members_of_mem_roomsIn hx']
  have hne : (Value.text owner = .null) = False := by simp
  simp only [hasChat, hne, if_false, outcome_bind, outcome_pure, outcome_lift,
    knownOwner_text howner, outcome_fetch hme hreg, Resolver.listed, Value.content,
    outcome_forEach_of_fixed _ hread, mapM_ok]
  rw [List.any_map]
  rfl

theorem outcome_hasChat_error {owner : String} (howner : owner ≠ "") (user : String) {e : Failure}
    (hreg : registryIn me s.live = .error e) :
    (hasChat (acting server (some me)).provider user (.text owner)).outcome s = (.error e, s) := by
  have hne : (Value.text owner = .null) = False := by simp
  simp only [hasChat, hne, if_false, outcome_bind, outcome_pure, outcome_lift,
    knownOwner_text howner, outcome_fetch_error hme hreg]

end Acting

end Account

end PairChat.Store
