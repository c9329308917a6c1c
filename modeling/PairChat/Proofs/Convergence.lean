import PairChat.Proofs.Chats

/-!
# Convergence: resolving again

Resolution leaves the stale rooms, and a room that was left keeps its place in the registry.  All
the same one resolution is enough, whatever the tables hold: words on the wire that stand for no
membership, registries of other programs, flags anywhere.

* `Resolves`: what a successful resolution read, answered and left.
* `roomsIn_leftRooms`: the rooms that an account sees in a state other than `left`, after it left
  some, are those of before without the ones it left.
* `resolve_converges`: **a second resolution leaves nothing and answers as the first one did,
  without the rooms that the first one left.**
-/

namespace PairChat.Store

open PairChat.Action Resolver Account

variable {server me : String} {user : Option String} {owner : Value} {s s' : Store} {t : Tables}
  {m : Membership} {rooms stale : List Room} {listed : List String}

/-- Has the account left the room on the way from one store to the other? -/
def HasLeft (me : String) (s s' : Store) (room : String) : Prop :=
  ¬ s.live.Stands room me .left ∧ s'.live.Stands room me .left

instance (room : String) : Decidable (HasLeft me s s' room) :=
  inferInstanceAs (Decidable (_ ∧ _))

/-! ### What a resolution did -/

/-- What a successful resolution read, answered and left. -/
structure Resolves (me : String) (owner : Value) (m : Membership) (s : Store)
    (rooms : List Room) (s' : Store) (listed : List String) : Prop where
  account : IsName me
  known : knownOwner owner = .ok owner
  listing : listedIn me owner s.live = .ok listed
  answer : rooms = remaining (roomsIn me s.live) listed m
  leaves : s' = s.leftRooms me (staleOf me s.live listed m)

/-- Rows that were written could be written. -/
theorem exists_of_outcome_insert {f : Tables → Except Failure Tables}
    (h : (insert f).outcome s = (.ok (), s')) : ∃ t, f s.live = .ok t := by
  rw [outcome_insert_eq] at h
  rcases hf : f s.live with e | t
  · rw [hf] at h
    cases h
  · exact ⟨t, rfl⟩

/-- A record that was put in its place could be bound. -/
theorem bound_of_outcome_setMembership {room word : String} {row : MemberRow} (hme : IsName me)
    (h : (setMembership room me word none).outcome s = (.ok row, s')) :
    bound (s.record room me word).texts = .ok () := by
  have hfound := outcome_lookUp (s := s) (·.user? me) (bound_singleton hme.isEncodable)
  rw [setMembership, outcome_bind_ok hfound, outcome_bind_ok outcome_now] at h
  obtain ⟨_, t, hput, -⟩ := exists_of_outcome_bind h
  obtain ⟨t', hrow⟩ := exists_of_outcome_insert hput
  obtain ⟨_, hb, -⟩ := exists_of_bind_eq_ok hrow
  exact hb

/-- Whoever could leave a room has left it, with a new record. -/
theorem eq_leftRoom_of_outcome {room : String}
    (h : ((acting server (some me)).provider.leave room).outcome s = (.ok (), s')) :
    s' = s.leftRoom me room := by
  have hsession : ((acting server (some me)).session [room]).IsRead := fun s => by
    rw [outcome_session_eq]
  obtain ⟨name, hname, h⟩ := hsession.exists_of_outcome_bind h
  rw [outcome_session_eq] at hname
  obtain ⟨he, hme, -⟩ := sessionIn_eq_ok_iff.mp (Prod.mk.inj hname).1
  obtain rfl := Option.some.inj he
  rw [outcome_bind_ok (outcome_query _)] at h
  split_ifs at h with hm
  · obtain ⟨row, t, hset, h⟩ := exists_of_outcome_bind h
    rw [outcome_setMembership (bound_of_outcome_setMembership hme hset) hm] at hset
    cases hset
    cases h
    rfl
  · cases h

theorem eq_leftRooms_of_outcome (rooms : List Room)
    (h : (rooms.forM fun x => (acting server (some me)).provider.leave x.id).outcome s =
      (.ok (), s')) : s' = s.leftRooms me rooms := by
  induction rooms generalizing s with
  | nil =>
    cases h
    rfl
  | cons x rooms ih =>
    obtain ⟨_, t, hx, h⟩ := exists_of_outcome_bind h
    rw [leftRooms_cons, ← eq_leftRoom_of_outcome hx]
    exact ih h

/-- **A resolution that has an answer is one of an account, for an owner that is known.** -/
theorem exists_resolves
    (h : (resolve (acting server user).provider owner m).outcome s = (.ok rooms, s')) :
    ∃ me listed, user = some me ∧ Resolves me owner m s rooms s' listed := by
  have howner : knownOwner owner = .ok owner := by
    unfold knownOwner
    split_ifs with he
    · simp [resolve, outcome_bind, knownOwner, he] at h
    · rfl
  rcases hs : sessionIn user [] with e | me
  · rw [outcome_resolve_refused hs howner m] at h
    cases h
  · obtain ⟨rfl, hme, -⟩ := sessionIn_eq_ok_iff.mp hs
    rcases hl : listedIn me owner s.live with e | listed
    · rw [outcome_resolve_error hme howner m hl] at h
      cases h
    · rw [outcome_resolve_eq hme howner m hl] at h
      obtain ⟨_, t, hleft, h⟩ := exists_of_outcome_bind h
      obtain ⟨hr, rfl⟩ := Prod.mk.inj h
      exact ⟨me, listed, rfl, hme, howner, hl, (Except.ok.inj hr).symm,
        eq_leftRooms_of_outcome _ hleft⟩

/-- The account has a record in every room of the answer, also after it left the stale ones. -/
theorem Resolves.member?_isSome (h : Resolves me owner m s rooms s' listed) {x : Room}
    (hx : x ∈ rooms) : (s'.live.member? x.id me).isSome := by
  rw [h.answer] at hx
  rw [h.leaves, member?_leftRooms_isSome]
  exact (member?_isSome_of_mem_roomsIn (mem_roomsIn_of_mem_remaining hx)).2

/-! ### The rooms that are seen after some were left -/

/-- Is the room none of those? -/
def isKept (stale : List Room) (x : Room) : Bool := stale.all fun y => y.id != x.id

theorem isKept_iff {x : Room} : isKept stale x ↔ ∀ y ∈ stale, y.id ≠ x.id := by
  simp [isKept]

/-- The members of the rooms that are kept stay as they are. -/
theorem membersIn_leftRooms {room : String} (h : ∀ y ∈ stale, y.id ≠ room) :
    membersIn room (s.leftRooms me stale).live = membersIn room s.live := by
  induction stale generalizing s with
  | nil => rfl
  | cons y stale ih =>
    rw [leftRooms_cons, ih fun z hz => h z (List.mem_cons_of_mem y hz), membersIn, live_leftRoom,
      Tables.membersOf_withRecord_of_ne (h y List.mem_cons_self), membersIn]

/-- A room that an account sees is known by its identifier. -/
theorem eq_of_mem_roomsIn {x y : Room} (hx : x ∈ roomsIn me t) (hy : y ∈ roomsIn me t)
    (h : x.id = y.id) : x = y := by
  obtain ⟨row, -, r, w, hr, hw, rfl⟩ := mem_roomsIn.mp hx
  obtain ⟨row', -, r', w', hr', hw', rfl⟩ := mem_roomsIn.mp hy
  dsimp only at h
  rw [← h] at hr'
  obtain rfl := Option.some.inj (hr.symm.trans hr')
  obtain rfl := Option.some.inj (hw.symm.trans hw')
  rw [h]

/-- **An account sees the rooms that it saw before, without those that it left.** -/
theorem roomsIn_leftRooms (hm : m ≠ .left) :
    (roomsIn me (s.leftRooms me stale).live).filter (·.membership == m) =
      ((roomsIn me s.live).filter (·.membership == m)).filter (isKept stale) := by
  have hrooms : (s.leftRooms me stale).live.rooms = s.live.rooms := by rw [live_leftRooms]
  rw [roomsIn_eq, roomsIn_eq, hrooms, List.filter_filter, List.filter_filterMap,
    List.filter_filterMap]
  refine List.filterMap_congr fun row _ => ?_
  by_cases hl : ∃ y ∈ stale, y.id = row.id
  · -- the room was left: it is seen as such, if it was seen
    have hkept : ∀ w, isKept stale ⟨row.id, w, membersIn row.id s.live⟩ = false := by
      intro w
      rw [Bool.eq_false_iff, ne_eq, isKept_iff]
      obtain ⟨y, hy, hid⟩ := hl
      exact fun hall => hall y hy hid
    rcases hr : s.live.member? row.id me with _ | r
    · have hn := member?_leftRooms_isSome me stale row.id me (s := s)
      rw [hr, Option.isSome_none, Option.isSome_eq_false_iff, Option.isNone_iff_eq_none] at hn
      rw [hn]
      rfl
    · obtain ⟨time, hleft⟩ := member?_leftRooms_self hl (by rw [hr]; rfl)
      have hne : (Membership.left == m) = false := by simpa using hm.symm
      simp only [hleft, Option.bind_some, roomIn, Membership.ofWire?_wire, Option.map_some,
        Option.filter_some, hne, Bool.false_eq_true, if_false]
      rcases Membership.ofWire? r.membership with _ | w
      · rfl
      · rw [Option.map_some, Option.filter_some, hkept]
        rfl
  · -- the room was not left: the record and the members are those of before
    have hk : ∀ y ∈ stale, y.id ≠ row.id := fun y hy hid => hl ⟨y, hy, hid⟩
    rw [member?_leftRooms_of_ne fun _ => hk]
    rcases s.live.member? row.id me with _ | r
    · rfl
    · simp only [Option.bind_some, roomIn, membersIn_leftRooms hk]
      rcases Membership.ofWire? r.membership with _ | w
      · rfl
      · have hkept : isKept stale ⟨row.id, w, membersIn row.id s.live⟩ := isKept_iff.mpr hk
        rw [Option.map_some, Option.filter_some, Option.filter_some, hkept, Bool.true_and]

theorem listedIn_leftRooms : listedIn me owner (s.leftRooms me stale).live =
    listedIn me owner s.live := by
  rw [live_leftRooms]
  rfl

/-! ### Resolving again -/

theorem candidates_eq (rooms : List Room) (listed : List String) (m : Membership) :
    candidates rooms listed m =
      (rooms.filter (·.membership == m)).filter fun x => listed.contains x.id := by
  rw [List.filter_filter, candidates]
  exact List.filter_congr fun x _ => Bool.and_comm _ _

theorem flagged_eq (rooms : List Room) (m : Membership) :
    flagged rooms m = (rooms.filter (·.membership == m)).filter (·.hasDirectFlag) := by
  rw [List.filter_filter, flagged]
  exact List.filter_congr fun x _ => Bool.and_comm _ _

theorem isKept_staleOf {x : Room} (hx : x ∈ candidates (roomsIn me t) listed m) :
    isKept (staleOf me t listed m) x = !isStale x := by
  rw [Bool.eq_iff_iff, isKept_iff, Bool.not_eq_true', Bool.eq_false_iff]
  constructor
  · intro hk hs
    exact hk x (List.mem_filter.mpr ⟨hx, hs⟩) rfl
  · intro hs y hy hid
    obtain ⟨hy, hys⟩ := List.mem_filter.mp hy
    -- a stale room with this identifier is this room
    obtain rfl := eq_of_mem_roomsIn (List.mem_of_mem_filter hy) (List.mem_of_mem_filter hx) hid
    exact hs hys

section Again
variable (hm : m ≠ .left)
include hm

/-- The candidates of the second resolution are those of the first that were not stale. -/
theorem candidates_leftRooms :
    candidates (roomsIn me (s.leftRooms me (staleOf me s.live listed m)).live) listed m =
      (candidates (roomsIn me s.live) listed m).filter fun x => !isStale x := by
  rw [candidates_eq, roomsIn_leftRooms hm, List.filter_comm, ← candidates_eq]
  exact List.filter_congr fun x hx => isKept_staleOf hx

/-- The flagged rooms of the second resolution are those of the first that were not left. -/
theorem flagged_leftRooms : flagged (roomsIn me (s.leftRooms me stale).live) m =
    (flagged (roomsIn me s.live) m).filter (isKept stale) := by
  rw [flagged_eq, roomsIn_leftRooms hm, List.filter_comm, ← flagged_eq]

/-- A room that was seen in the state was left exactly if it is not kept. -/
theorem hasLeft_leftRooms_iff {x : Room} (hx : x ∈ roomsIn me s.live) (hw : x.membership = m) :
    HasLeft me s (s.leftRooms me stale) x.id ↔ ¬ isKept stale x := by
  have hs : s.live.Stands x.id me m := hw ▸ stands_of_mem_roomsIn hx
  constructor
  · rintro ⟨hnot, hleft⟩ hk
    obtain ⟨r, hr, hw⟩ := hleft
    rw [member?_leftRooms_of_ne fun _ => isKept_iff.mp hk] at hr
    exact hnot ⟨r, hr, hw⟩
  · intro hk
    have hl : ∃ y ∈ stale, y.id = x.id := by
      by_contra hno
      exact hk (isKept_iff.mpr fun y hy hid => hno ⟨y, hy, hid⟩)
    obtain ⟨time, hleft⟩ := member?_leftRooms_self hl hs.isSome
    exact ⟨fun h => hm (Tables.Stands.unique hs h), _, hleft, rfl⟩

omit hm in
theorem membership_of_mem_remaining {x : Room}
    (hx : x ∈ remaining (roomsIn me t) listed m) : x.membership = m := by
  unfold remaining at hx
  dsimp only at hx
  split_ifs at hx
  · exact eq_of_beq (Bool.and_eq_true_iff.mp (List.mem_filter.mp hx).2).1
  · exact (mem_candidates.mp (List.mem_of_mem_filter hx)).2.1

/-- What remains the second time is what remained the first time, without the rooms that were
left. -/
theorem remaining_leftRooms :
    remaining (roomsIn me (s.leftRooms me (staleOf me s.live listed m)).live) listed m =
      (remaining (roomsIn me s.live) listed m).filter
        (isKept (staleOf me s.live listed m)) := by
  have hkept : ((candidates (roomsIn me s.live) listed m).filter fun x => !isStale x).filter
      (isKept (staleOf me s.live listed m)) =
        (candidates (roomsIn me s.live) listed m).filter fun x => !isStale x := by
    refine List.filter_eq_self.mpr fun x hx => ?_
    obtain ⟨hx, hs⟩ := List.mem_filter.mp hx
    rw [isKept_staleOf hx, hs]
  unfold remaining
  dsimp only
  rw [candidates_leftRooms hm, List.filter_filter, flagged_leftRooms hm]
  simp only [Bool.and_self]
  split_ifs
  · rfl
  · exact hkept.symm

theorem staleOf_leftRooms :
    staleOf me (s.leftRooms me (staleOf me s.live listed m)).live listed m = [] := by
  rw [staleOf, candidates_leftRooms hm, List.filter_filter]
  simp

end Again

/-- **Resolution converges, whatever the tables hold.** If it has an answer, then resolving again
leaves no room and changes nothing, and it answers with the same rooms in the same order, without
those that the first resolution left. -/
theorem resolve_converges (server : String) (user : Option String) (owner : Value)
    {m : Membership} {s s' : Store} {rooms : List Room} (hm : m ≠ .left)
    (h : (resolve (acting server user).provider owner m).outcome s = (.ok rooms, s')) :
    ∃ me, user = some me ∧ (resolve (acting server user).provider owner m).outcome s' =
      (.ok (rooms.filter fun x => ¬ HasLeft me s s' x.id), s') := by
  obtain ⟨me, listed, rfl, hr⟩ := exists_resolves h
  obtain rfl := hr.answer
  obtain rfl := hr.leaves
  refine ⟨me, rfl, ?_⟩
  have hl : listedIn me owner (s.leftRooms me (staleOf me s.live listed m)).live = .ok listed :=
    listedIn_leftRooms.trans hr.listing
  have hrooms : (remaining (roomsIn me s.live) listed m).filter
      (isKept (staleOf me s.live listed m)) =
        (remaining (roomsIn me s.live) listed m).filter fun x =>
          ¬ HasLeft me s (s.leftRooms me (staleOf me s.live listed m)) x.id := by
    refine List.filter_congr fun x hx => ?_
    have hiff : HasLeft me s (s.leftRooms me (staleOf me s.live listed m)) x.id ↔ _ :=
      hasLeft_leftRooms_iff hm (mem_roomsIn_of_mem_remaining hx) (membership_of_mem_remaining hx)
    rw [Bool.eq_iff_iff, decide_eq_true_iff, hiff, not_not]
  have hstale : staleOf me (s.leftRooms me (staleOf me s.live listed m)).live listed m = [] :=
    staleOf_leftRooms hm
  rw [outcome_resolve hr.account hr.known m hl (by simp [hstale]), remaining_leftRooms hm, hrooms,
    hstale, leftRooms_nil]

/-- Bob has left his only chat with Alice, and his record still carries the flag. -/
def flaggedAndLeft : Store where
  saved := {
    users := [⟨some "@alice:localhost", some "Alice", 0⟩, ⟨some "@bob:localhost", some "Bob", 1⟩]
    rooms := [⟨"!room1:localhost", "@alice:localhost", true, 2⟩]
    members := [⟨"!room1:localhost", "@alice:localhost", "join", some "Alice", none, 2⟩,
      ⟨"!room1:localhost", "@bob:localhost", "leave", some "Bob", some true, 3⟩]
    documents := [⟨"@alice:localhost", registryType,
      Registry.toContent .text [("@alice:localhost", ["!room1:localhost"])]⟩] }
  clock := 5
  nextRoom := 2

/-- The room of that chat, as Alice sees it. -/
def flaggedRoom : Room where
  id := "!room1:localhost"
  membership := .joined
  members := [⟨"@alice:localhost", .joined, some "Alice", none⟩,
    ⟨"@bob:localhost", .left, some "Bob", some true⟩]

theorem roomsIn_flaggedAndLeft :
    roomsIn "@alice:localhost" flaggedAndLeft.live = [flaggedRoom] := by
  have hsorted : flaggedAndLeft.live.members.Pairwise fun a b => Tables.isBefore a b := by
    decide
  have hmembers : membersIn "!room1:localhost" flaggedAndLeft.live = flaggedRoom.members := by
    rw [membersIn, Tables.membersOf, List.mergeSort_of_pairwise (hsorted.filter _)]
    decide
  rw [roomsIn_eq]
  show (roomIn "!room1:localhost" "join" flaggedAndLeft.live).toList = _
  rw [roomIn, hmembers]
  rfl

/-- Alice leaves the chat, which is the answer all the same. The second answer is empty. -/
theorem resolve_converges_flagged :
    let a := resolve (acting "localhost" (some "@alice:localhost")).provider
      (.text "@alice:localhost") .joined
    let s' := flaggedAndLeft.leftRoom "@alice:localhost" "!room1:localhost"
    Membership.joined ≠ .left ∧ a.outcome flaggedAndLeft = (.ok [flaggedRoom], s') ∧
      a.outcome s' = (.ok [], s') := by
  intro a s'
  have hm : Membership.joined ≠ .left := by decide
  have hfirst : a.outcome flaggedAndLeft = (.ok [flaggedRoom], s') := by
    have hl : listedIn "@alice:localhost" (.text "@alice:localhost") flaggedAndLeft.live =
        .ok ["!room1:localhost"] := by decide +kernel
    have hb : ∀ x ∈ staleOf "@alice:localhost" flaggedAndLeft.live ["!room1:localhost"] .joined,
        bound (flaggedAndLeft.record x.id "@alice:localhost" Membership.left.wire).texts =
          .ok () := by
      rw [staleOf, roomsIn_flaggedAndLeft]
      decide
    have ho : a.outcome flaggedAndLeft = _ :=
      outcome_resolve ⟨by decide, by decide⟩ (knownOwner_text (by decide)) .joined hl hb
    rw [staleOf, roomsIn_flaggedAndLeft] at ho
    exact ho
  obtain ⟨me, hme, hsecond⟩ := resolve_converges "localhost" (some "@alice:localhost") _ hm hfirst
  obtain rfl := Option.some.inj hme
  have hnone : [flaggedRoom].filter
      (fun x => ¬ HasLeft "@alice:localhost" flaggedAndLeft s' x.id) = [] := by decide +kernel
  rw [hnone] at hsecond
  exact ⟨hm, hfirst, hsecond⟩

end PairChat.Store
