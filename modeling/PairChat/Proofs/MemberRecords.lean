import PairChat.Proofs.BlockLists
import PairChat.Proofs.LatestEvents

/-!
# Member records: what a list of events leaves, and in which order

`Reports event user report` says what a document has to look like to be a well-formed event about a
user, and what it reports.  A known membership makes it a record (`Records`), any other one or none
a removal (`Removes`); `MemberEvent.ofValue?` reads just these (`ofValue?_eq_record_iff`,
`ofValue?_eq_removal_iff`).

`LeftBy events members` says which records a list of events leaves: one for each user whose last
well-formed event is a record, in the order in which the users came in (`EnteredAt`).  The main
statement is that nothing else is a result, and that all other documents in the list have no
influence (`members_exact`).

The users in a room are kept in order as those on a block list are, so the order is taken from there
(`userIds_members`).
-/

namespace PairChat.MemberEvent

/-! ### What an event reports -/

/-- The document is a mapping. -/
def IsMapping (v : Value) : Prop := ∃ entries, v = .map entries

/-- Under the key stands this text; or `null` or nothing, if it is none. -/
def HasText (v : Value) (key : String) : Option String → Prop
  | some s => v.get? key = some (.text s)
  | none => v.get? key = none ∨ v.get? key = some .null

/-- Under the key stands this truth value; or anything else or nothing, if it is none. -/
def HasFlag (v : Value) (key : String) : Option Bool → Prop
  | some b => v.get? key = some (.bool b)
  | none => ∀ b, v.get? key ≠ some (.bool b)

/-- The content of an event, which is a mapping. It is empty if it is missing. -/
def HasContent (event content : Value) : Prop :=
  (event.get? "content" = some content ∧ IsMapping content) ∨
    (event.get? "content" = none ∧ content = .map [])

/-- What is reported about a user. -/
structure Report where
  word : Option String
  name : Option String
  flag : Option Bool
deriving DecidableEq, Repr

/-- **The document is a well-formed event about a user**, and reports this. -/
structure Reports (event : Value) (user : String) (report : Report) : Prop where
  mapping : IsMapping event
  type : event.get? "type" = some (.text memberType)
  user : event.get? "state_key" = some (.text user)
  content : ∃ content, HasContent event content ∧
    HasText content "membership" report.word ∧ HasText content "displayname" report.name ∧
      HasFlag content "is_direct" report.flag

/-- The document is a well-formed event about the user. -/
def IsAbout (event : Value) (user : String) : Prop := ∃ report, Reports event user report

/-- The event reports this record: its membership is one of the five. -/
def Records (event : Value) (m : Member) : Prop :=
  Reports event m.userId ⟨some m.membership.wire, m.displayName, m.isDirect⟩

/-- The event reports no membership of the five about the user. -/
def Removes (event : Value) (user : String) : Prop :=
  ∃ report, Reports event user report ∧ ∀ m : Membership, report.word ≠ some m.wire

variable {event content v : Value} {user key : String} {events : List Value} {m : Member}

/-! ### Reading events -/

theorem optionalText?_eq_some_iff {text : Option String} :
    optionalText? (v.get? key) = some text ↔ HasText v key text := by
  unfold optionalText?
  rcases text with _ | s <;> split <;> simp_all [HasText]

theorem flag?_eq_iff {flag : Option Bool} : flag? (v.get? key) = flag ↔ HasFlag v key flag := by
  unfold flag?
  split
  · next b h =>
    rw [HasFlag.eq_def]
    rcases flag with _ | b' <;> simp [h]
  · next h =>
    rcases flag with _ | b
    · exact ⟨fun _ b => h b, fun _ => rfl⟩
    · exact ⟨nofun, fun hb => absurd hb (h b)⟩

theorem content?_eq_some_iff : content? event = some content ↔ HasContent event content := by
  unfold content? HasContent IsMapping
  split
  · next h => simp [h, eq_comm]
  · next entries h =>
    simp only [h, Option.some.injEq, reduceCtorEq, false_and, or_false]
    constructor
    · rintro rfl
      exact ⟨rfl, entries, rfl⟩
    · exact And.left
  · next w hw h =>
    have hno : ¬ ∃ entries, w = .map entries := fun ⟨entries, he⟩ => hw entries he
    rw [h]
    simp only [reduceCtorEq, Option.some.injEq, false_and, or_false, false_iff, not_and]
    rintro rfl
    exact hno

/-- The content of an event about a user. -/
theorem ofContent?_eq_some_iff {e : MemberEvent} : ofContent? user content = some e ↔
    ∃ word name flag, HasText content "membership" word ∧ HasText content "displayname" name ∧
      HasFlag content "is_direct" flag ∧
        e = match word.bind Membership.ofWire? with
          | some membership => .record ⟨user, membership, name, flag⟩
          | none => .removal user := by
  unfold ofContent?
  simp only [← optionalText?_eq_some_iff, ← flag?_eq_iff]
  rcases optionalText? (content.get? "membership") with _ | word
  · simp
  rcases optionalText? (content.get? "displayname") with _ | name
  · simp
  · rcases hw : word.bind Membership.ofWire? with _ | membership <;> simp [hw, eq_comm]

theorem user?_of_ofContent? {e : MemberEvent} (h : ofContent? user content = some e) :
    e.user? = some user := by
  obtain ⟨word, name, flag, -, -, -, rfl⟩ := ofContent?_eq_some_iff.mp h
  rcases word.bind Membership.ofWire? with _ | membership <;> rfl

/-- A value is read as an event about a user if its content is. -/
theorem about?_eq_some_iff_ofContent? {e : MemberEvent} : about? user event = some e ↔
    IsMapping event ∧ event.get? "type" = some (.text memberType) ∧
      event.get? "state_key" = some (.text user) ∧
        ∃ content, HasContent event content ∧ ofContent? user content = some e := by
  simp only [← content?_eq_some_iff]
  unfold about?
  rw [Option.filter_eq_some_iff]
  constructor
  · rintro ⟨hv, hu⟩
    unfold ofValue? at hv
    split at hv
    · next entries =>
      simp only [Option.bind_eq_bind, Option.bind_eq_some_iff] at hv
      obtain ⟨type, ⟨t, ht, htext⟩, owner, howner, content, hcontent, hv⟩ := hv
      rcases owner with _ | owner
      · cases hv
        cases hu
      split_ifs at hv with htype
      · have howner := optionalText?_eq_some_iff.mp howner
        obtain rfl : owner = user :=
          Option.some.inj ((user?_of_ofContent? hv).symm.trans (eq_of_beq hu))
        refine ⟨⟨entries, rfl⟩, ?_, howner, content, hcontent, hv⟩
        rw [ht, Value.text?_eq_some_iff.mp htext, htype]
      · cases hv
        cases hu
    · cases hv
  · rintro ⟨⟨entries, rfl⟩, htype, howner, content, hcontent, hv⟩
    refine ⟨?_, beq_iff_eq.mpr (user?_of_ofContent? hv)⟩
    simp [ofValue?, htype, howner, hcontent, hv, optionalText?]

/-- **What the well-formed events about a user are read as.** -/
theorem about?_eq_some_iff {e : MemberEvent} : about? user event = some e ↔
    ∃ report, Reports event user report ∧
      e = match report.word.bind Membership.ofWire? with
        | some membership => .record ⟨user, membership, report.name, report.flag⟩
        | none => .removal user := by
  rw [about?_eq_some_iff_ofContent?]
  simp only [ofContent?_eq_some_iff]
  constructor
  · rintro ⟨hmap, htype, huser, content, hcontent, word, name, flag, hword, hname, hflag, he⟩
    exact ⟨⟨word, name, flag⟩, ⟨hmap, htype, huser, content, hcontent, hword, hname, hflag⟩, he⟩
  · rintro ⟨⟨word, name, flag⟩, ⟨hmap, htype, huser, content, hcontent, hword, hname, hflag⟩, he⟩
    exact ⟨hmap, htype, huser, content, hcontent, word, name, flag, hword, hname, hflag, he⟩

theorem about?_eq_record_iff : about? m.userId event = some (.record m) ↔ Records event m := by
  rw [about?_eq_some_iff]
  constructor
  · rintro ⟨⟨word, name, flag⟩, hreports, he⟩
    rcases hw : word.bind Membership.ofWire? with _ | membership <;> rw [hw] at he
    · cases he
    · obtain ⟨w, rfl, hm⟩ := Option.bind_eq_some_iff.mp hw
      obtain rfl := Membership.ofWire?_eq_some_iff.mp hm
      rw [MemberEvent.record.injEq] at he
      rw [Records, he]
      exact hreports
  · intro hrecords
    refine ⟨_, hrecords, ?_⟩
    simp [Membership.ofWire?_wire]

theorem about?_eq_removal_iff : about? user event = some (.removal user) ↔ Removes event user := by
  rw [about?_eq_some_iff]
  constructor
  · rintro ⟨⟨word, name, flag⟩, hreports, he⟩
    refine ⟨_, hreports, ?_⟩
    rintro m rfl
    simp [Membership.ofWire?_wire] at he
  · rintro ⟨report, hreports, hunknown⟩
    refine ⟨report, hreports, ?_⟩
    have hnone : report.word.bind Membership.ofWire? = none := by
      rw [Option.bind_eq_none_iff]
      intro w hw
      by_contra hsome
      obtain ⟨m, hm⟩ := Option.ne_none_iff_exists'.mp hsome
      exact hunknown m (hw.trans (by rw [Membership.ofWire?_eq_some_iff.mp hm]))
    rw [hnone]

theorem about?_of_ofValue? {e : MemberEvent} (hu : e.user? = some user) :
    about? user event = some e ↔ ofValue? event = some e := by
  unfold about?
  rw [Option.filter_eq_some_iff, hu, beq_self_eq_true, and_iff_left rfl]

/-- **An event is read as a record if it is one.** -/
theorem ofValue?_eq_record_iff : ofValue? event = some (.record m) ↔ Records event m := by
  rw [← about?_of_ofValue? rfl, about?_eq_record_iff]

/-- **An event is read as a removal if it is one.** -/
theorem ofValue?_eq_removal_iff : ofValue? event = some (.removal user) ↔ Removes event user := by
  rw [← about?_of_ofValue? rfl, about?_eq_removal_iff]

theorem isAbout_iff : IsAbout event user ↔ (about? user event).isSome := by
  rw [Option.isSome_iff_exists]
  simp only [about?_eq_some_iff]
  constructor
  · rintro ⟨report, hreports⟩
    exact ⟨_, report, hreports, rfl⟩
  · rintro ⟨-, report, hreports, -⟩
    exact ⟨report, hreports⟩

/-! ### The order of the users -/

/-- The event reports a record of the user. -/
def Enters (event : Value) (user : String) : Prop := ∃ m, Records event m ∧ m.userId = user

/-- The user is in the room since an event: it is the first record of theirs after they were last
removed. -/
structure EnteredAt (events : List Value) (user : String) (i : Nat) : Prop where
  enters : ∃ event, events[i]? = some event ∧ Enters event user
  kept : ∀ j event, i < j → events[j]? = some event → ¬ Removes event user
  first : ∀ k event, k < i → events[k]? = some event → Enters event user →
    ∃ j event', k < j ∧ j < i ∧ events[j]? = some event' ∧ Removes event' user

/-- The last well-formed event about a user is this record of theirs. -/
def EndsWith (events : List Value) (m : Member) : Prop :=
  ∃ before event after, events = before ++ event :: after ∧ Records event m ∧
    ∀ e ∈ after, ¬ IsAbout e m.userId

/-- **The records that a list of events should leave**, each user once, in the order of the events
since when they are in the room. -/
structure LeftBy (events : List Value) (members : List Member) : Prop where
  nodup : (members.map (·.userId)).Nodup
  mem_iff : ∀ m, m ∈ members ↔ EndsWith events m
  sorted : members.Pairwise fun m n =>
    ∃ i j, EnteredAt events m.userId i ∧ EnteredAt events n.userId j ∧ i < j

theorem about?_eq_none_iff : about? user event = none ↔ ¬ IsAbout event user := by
  rw [isAbout_iff, Option.not_isSome_iff_eq_none]

theorem latest?_eq_record_iff : latest? m.userId events = some (.record m) ↔ EndsWith events m := by
  unfold latest?
  simp only [List.findSome?_eq_some_iff, about?_eq_record_iff, about?_eq_none_iff]
  constructor
  · rintro ⟨after, event, before, hevents, hrecords, hafter⟩
    refine ⟨before.reverse, event, after.reverse, ?_, hrecords, fun e he => ?_⟩
    · rw [← List.reverse_inj, hevents]
      simp
    · exact hafter e (List.mem_reverse.mp he)
  · rintro ⟨before, event, after, rfl, hrecords, hafter⟩
    refine ⟨after.reverse, event, before.reverse, by simp, hrecords, fun e he => ?_⟩
    exact hafter e (List.mem_reverse.mp he)

/-- What an event does to the users in a room is what a call does to those on a block list: it adds
one, takes one off or leaves all as they are. -/
def turn (event : Value) : BlockListCall :=
  match ofValue? event with
  | some (.record member) => .block member.userId
  | some (.removal user) => .unblock user
  | some .unrelated | none => .list

theorem turn_eq_block_iff : turn event = .block user ↔ Enters event user := by
  unfold turn Enters
  simp only [← ofValue?_eq_record_iff]
  rcases ofValue? event with _ | ⟨member⟩ | ⟨other⟩ | _ <;> simp

theorem turn_eq_unblock_iff : turn event = .unblock user ↔ Removes event user := by
  unfold turn
  rw [← ofValue?_eq_removal_iff]
  rcases ofValue? event with _ | ⟨member⟩ | ⟨other⟩ | _ <;> simp

theorem userIds_step (members : List Member) (event : Value) :
    (step members event).map (·.userId) = (turn event).apply (members.map (·.userId)) := by
  unfold step turn
  rcases ofValue? event with _ | ⟨member⟩ | ⟨user⟩ | _
  · rfl
  · exact userIds_putMember member members
  · show (members.filter (·.userId ≠ user)).map (·.userId) =
      (members.map (·.userId)).filter (· ≠ user)
    rw [List.filter_map]
    rfl
  · rfl

/-- **The users in a room are those on a block list after the same turns.** -/
theorem userIds_members (events : List Value) :
    (members events).map (·.userId) = usersAfter (events.map turn) := by
  induction events using List.reverseRecOn with
  | nil => rfl
  | append_singleton events event ih =>
    have hfold : members (events ++ [event]) = step (members events) event := by
      unfold members
      rw [List.foldl_append]
      rfl
    have hturn : usersAfter ((events ++ [event]).map turn) =
        (turn event).apply (usersAfter (events.map turn)) := by
      unfold usersAfter
      rw [List.map_append, List.foldl_append]
      rfl
    rw [hfold, userIds_step, ih, hturn]

theorem getElem?_turn {c : BlockListCall} {i : Nat} : (events.map turn)[i]? = some c ↔
    ∃ event, events[i]? = some event ∧ turn event = c := by
  rw [List.getElem?_map, Option.map_eq_some_iff]

theorem enteredAt_of_blockedSince {i : Nat} (h : BlockedSince (events.map turn) user i) :
    EnteredAt events user i where
  enters := by
    obtain ⟨event, he, ht⟩ := getElem?_turn.mp h.call
    exact ⟨event, he, turn_eq_block_iff.mp ht⟩
  kept j event hj he hr :=
    h.kept j hj (getElem?_turn.mpr ⟨event, he, turn_eq_unblock_iff.mpr hr⟩)
  first k event hk he hr := by
    have hb := getElem?_turn.mpr ⟨event, he, turn_eq_block_iff.mpr hr⟩
    obtain ⟨j, hkj, hji, hu⟩ := h.first k hk hb
    obtain ⟨event', he', ht⟩ := getElem?_turn.mp hu
    exact ⟨j, event', hkj, hji, he', turn_eq_unblock_iff.mp ht⟩

theorem leftBy_members (events : List Value) : LeftBy events (members events) where
  nodup := nodup_members events
  mem_iff m := mem_members_iff.trans latest?_eq_record_iff
  sorted := by
    have hsorted := (inOrder_usersAfter (events.map turn)).sorted
    rw [← userIds_members, List.pairwise_map] at hsorted
    refine hsorted.imp ?_
    rintro m n ⟨i, j, hi, hj, hij⟩
    exact ⟨i, j, enteredAt_of_blockedSince hi, enteredAt_of_blockedSince hj, hij⟩

/-- A user is in a room since one event only. -/
theorem EnteredAt.unique {i j : Nat} (hi : EnteredAt events user i) (hj : EnteredAt events user j) :
    i = j := by
  -- The earlier of two would be followed by a removal, after which the user is not in the room.
  have hle : ∀ {a b : Nat}, EnteredAt events user a → EnteredAt events user b → b ≤ a := by
    intro a b ha hb
    by_contra hlt
    obtain ⟨event, he, hr⟩ := ha.enters
    obtain ⟨c, event', hac, -, hc, hremoves⟩ := hb.first a event (by omega) he hr
    exact ha.kept c event' hac hc hremoves
  exact Nat.le_antisymm (hle hj hi) (hle hi hj)

/-- **Only one list of records is right.** -/
theorem LeftBy.unique {ms ms' : List Member} (h : LeftBy events ms) (h' : LeftBy events ms') :
    ms = ms' := by
  have hperm : ms.Perm ms' := by
    rw [List.perm_ext_iff_of_nodup h.nodup.of_map h'.nodup.of_map]
    intro m
    rw [h.mem_iff, h'.mem_iff]
  refine hperm.eq_of_pairwise (fun m n _ _ hmn hnm => ?_) h.sorted h'.sorted
  obtain ⟨i, j, hi, hj, hij⟩ := hmn
  obtain ⟨j', i', hj', hi', hji⟩ := hnm
  obtain rfl := hi.unique hi'
  obtain rfl := hj.unique hj'
  omega

/-! ### Documents without influence -/

theorem step_of_not_isAbout (h : ∀ user, ¬ IsAbout event user) (members : List Member) :
    step members event = members := by
  have hnone : ∀ e user, e.user? = some user → ofValue? event ≠ some e := by
    intro e user hu he
    rw [← about?_of_ofValue? hu] at he
    exact h user (isAbout_iff.mpr (by simp [he]))
  unfold step
  rcases hv : ofValue? event with _ | ⟨member⟩ | ⟨user⟩ | _
  · rfl
  · exact absurd hv (hnone _ _ rfl)
  · exact absurd hv (hnone _ _ rfl)
  · rfl

/-- **The records that a list of events leaves** are those of the last well-formed events about the
users, in order, and no others. Whatever is no well-formed event about a user has no influence
wherever it stands. -/
theorem members_exact (events : List Value) :
    (∀ ms, ms = members events ↔ LeftBy events ms) ∧
      ∀ before event after, events = before ++ event :: after → (∀ user, ¬ IsAbout event user) →
        members events = members (before ++ after) := by
  refine ⟨fun ms => ⟨?_, fun h => h.unique (leftBy_members events)⟩, ?_⟩
  · rintro rfl
    exact leftBy_members events
  · rintro before event after rfl hevent
    unfold members
    rw [List.foldl_append, List.foldl_cons, step_of_not_isAbout hevent, List.foldl_append]

/-- Alice is removed and comes in again behind Bob. An event about her without a content that is a
mapping stands in between and changes nothing. -/
theorem members_exact_rejoined :
    let event (user word : String) : Value := .object [("type", .text memberType),
      ("state_key", .text user), ("content", .object [("membership", .text word)])]
    let malformed : Value := .object [("type", .text memberType), ("state_key", .text "@alice:x"),
      ("content", .null)]
    let before := [event "@alice:x" "join", event "@bob:x" "join", event "@alice:x" "unknown"]
    let after := [event "@alice:x" "invite", event "@bob:x" "leave"]
    let events := before ++ malformed :: after
    (∀ user, ¬ IsAbout malformed user) ∧ members events = members (before ++ after) ∧
      LeftBy events [⟨"@bob:x", .left, none, none⟩, ⟨"@alice:x", .invited, none, none⟩] := by
  intro event malformed before after events
  have hmalformed : ∀ user, ¬ IsAbout malformed user := by
    intro user
    rw [isAbout_iff, about?, show ofValue? malformed = none by decide]
    nofun
  obtain ⟨hexact, hinfluence⟩ := members_exact events
  exact ⟨hmalformed, hinfluence before malformed after rfl hmalformed,
    (hexact _).mp (by decide +kernel)⟩

end PairChat.MemberEvent
