import PairChat.Proofs.Statements
import PairChat.Proofs.TwoRuns

/-!
# Half-made rooms: rows that were written and not committed

A room whose records cannot all be written stays behind half made: the connection reads the rows
that were written before the failure, and none of them is committed.

* `Statement` lists the statements that write.  One that fails commits nothing and takes no room and
  no record away; one that succeeds commits everything that is read (`Statement.commits`).
* `HalfMade`: what becomes of rows that were not committed.  Closing the store drops them.  The next
  statement that succeeds commits them, whatever it writes and whichever others fail before it.
* `createRoom_exact`: **the outcome of making a room, for every list of guests.**
-/

namespace PairChat.Store

open PairChat.Action

/-! ### Statements that write -/

/-- A statement that writes, with its arguments. -/
inductive Statement where
  | prepare
  | createUser (id displayName : Option String)
  | createRoom (creator : Option String) (server : String) (invited : List (Option String))
      (isDirect : Option Bool)
  | setMembership (room user membership : String) (isDirect : Option Bool)
  | setDocument (user type : String) (content : Value)
deriving DecidableEq, Repr

namespace Statement

/-- Carry a statement out. -/
def run : Statement → Action Store Unit
  | .prepare => Store.prepare
  | .createUser id name => do let _ ← Store.createUser id name
  | .createRoom creator server invited isDirect => do
    let _ ← Store.createRoom creator server invited isDirect
  | .setMembership room user membership isDirect => do
    let _ ← Store.setMembership room user membership isDirect
  | .setDocument user type content => Store.setDocument user type content

/-- The room and the user whose record the statement replaces, if it replaces one. -/
def replaced? : Statement → Option (String × String)
  | .setMembership room user _ _ => some (room, user)
  | _ => none

end Statement

/-! ### Rows that are kept -/

namespace Tables

variable {t u v : Tables} {k : Option (String × String)}

/-- **No room is lost, and no record, unless another one has taken its place.** -/
structure Keeps (k : Option (String × String)) (t u : Tables) : Prop where
  rooms : ∀ r ∈ t.rooms, r ∈ u.rooms
  members : ∀ m ∈ t.members, m ∈ u.members ∨
    k = some (m.roomId, m.userId) ∧ (u.member? m.roomId m.userId).isSome

theorem keeps_of_subset (hrooms : t.rooms ⊆ u.rooms) (hmembers : t.members ⊆ u.members) :
    Keeps k t u := ⟨fun _ hr => hrooms hr, fun _ hm => .inl (hmembers hm)⟩

theorem Keeps.refl (k : Option (String × String)) (t : Tables) : Keeps k t t :=
  keeps_of_subset (List.Subset.refl _) (List.Subset.refl _)

/-- What is kept by all means is kept until it is replaced. -/
theorem Keeps.trans (h : Keeps none t u) (h' : Keeps k u v) : Keeps k t v where
  rooms r hr := h'.rooms r (h.rooms r hr)
  members m hm := by
    rcases h.members m hm with hm | ⟨hk, -⟩
    · exact h'.members m hm
    · cases hk

theorem keeps_insertUser {row : UserRow} (h : t.insertUser row = .ok u) : Keeps k t u := by
  obtain ⟨-, -, h⟩ := exists_of_bind_eq_ok h
  split_ifs at h
  cases h
  exact keeps_of_subset (List.Subset.refl _) (List.Subset.refl _)

theorem keeps_insertRoom {row : RoomRow} (h : t.insertRoom row = .ok u) : Keeps k t u := by
  obtain ⟨-, -, h⟩ := exists_of_bind_eq_ok h
  split_ifs at h
  cases h
  exact keeps_of_subset (List.subset_append_left _ _) (List.Subset.refl _)

theorem keeps_insertMember {row : MemberRow} (h : t.insertMember row = .ok u) : Keeps k t u := by
  obtain ⟨-, -, h⟩ := exists_of_bind_eq_ok h
  split_ifs at h
  cases h
  exact keeps_of_subset (List.Subset.refl _) (List.subset_append_left _ _)

theorem keeps_putDocument {row : DocumentRow} (h : t.putDocument row = .ok u) : Keeps k t u := by
  obtain ⟨-, -, h⟩ := exists_of_bind_eq_ok h
  split_ifs at h <;> cases h <;> exact keeps_of_subset (List.Subset.refl _) (List.Subset.refl _)

/-- A record that is put under a key takes the place of another one under this key only. -/
theorem keeps_putMember {row : MemberRow} (h : t.putMember row = .ok u) :
    Keeps (some (row.roomId, row.userId)) t u := by
  obtain ⟨_, hb, h⟩ := exists_of_bind_eq_ok h
  split_ifs at h with hold
  · cases h
    refine ⟨fun r hr => hr, fun m hm => ?_⟩
    by_cases hk : isRecordOf row.roomId row.userId m
    · have hkey := isRecordOf_iff.mp hk
      refine .inr ⟨congrArg some hkey.symm, ?_⟩
      exact (member?_withRecord_isSome row _ _).trans (member?_isSome_of_mem hm)
    · refine .inl (List.mem_map.mpr ⟨m, hm, ?_⟩)
      rw [if_neg hk]
  · exact keeps_insertMember h

end Tables

/-! ### What an action commits -/

section Commits

variable {α β ι : Type}

/-- The action commits nothing, and it takes no room and no record away. -/
def Stages (a : Action Store α) : Prop :=
  ∀ s, (a.outcome s).2.saved = s.saved ∧ Tables.Keeps none s.live (a.outcome s).2.live

/-- The action stages rows until it fails. If it does not fail, it commits what is read. -/
structure Commits (k : Option (String × String)) (a : Action Store α) : Prop where
  failed : ∀ {s t e}, a.outcome s = (.error e, t) →
    t.saved = s.saved ∧ Tables.Keeps none s.live t.live
  done : ∀ {s t x}, a.outcome s = (.ok x, t) → t.pending = none ∧ Tables.Keeps k s.live t.live

theorem stages_of_isRead {a : Action Store α} (h : a.IsRead) : Stages a := by
  intro s
  rw [h s]
  exact ⟨rfl, .refl _ _⟩

theorem stages_now : Stages now := fun s => ⟨rfl, .refl none s.live⟩

theorem stages_freshRoom (server : String) : Stages (freshRoom server) :=
  fun s => ⟨rfl, .refl none s.live⟩

theorem stages_insert {f : Tables → Except Failure Tables}
    (hf : ∀ t u, f t = .ok u → Tables.Keeps none t u) : Stages (insert f) := by
  intro s
  rw [outcome_insert_eq]
  rcases h : f s.live with e | t
  · exact ⟨rfl, .refl _ _⟩
  · exact ⟨rfl, hf _ _ h⟩

theorem Stages.bind {a : Action Store α} {f : α → Action Store β} (ha : Stages a)
    (hf : ∀ x, Stages (f x)) : Stages (a >>= f) := by
  intro s
  obtain ⟨hsaved, hkeeps⟩ := ha s
  rw [outcome_bind]
  rcases h : a.outcome s with ⟨e | x, t⟩ <;> rw [h] at hsaved hkeeps
  · exact ⟨hsaved, hkeeps⟩
  · obtain ⟨hsaved', hkeeps'⟩ := hf x t
    exact ⟨hsaved'.trans hsaved, hkeeps.trans hkeeps'⟩

theorem stages_forM {f : ι → Action Store Unit} (hf : ∀ x, Stages (f x)) :
    ∀ l : List ι, Stages (l.forM f)
  | [] => stages_of_isRead (isRead_pure ())
  | x :: l => (hf x).bind fun _ => stages_forM hf l

theorem Stages.commits_bind {k : Option (String × String)} {a : Action Store α}
    {f : α → Action Store β} (ha : Stages a) (hf : ∀ x, Commits k (f x)) : Commits k (a >>= f) := by
  constructor
  · intro s t e h
    obtain ⟨hsaved, hkeeps⟩ := ha s
    rw [outcome_bind] at h
    rcases ho : a.outcome s with ⟨e' | x, s'⟩ <;> rw [ho] at h hsaved hkeeps
    · cases h
      exact ⟨hsaved, hkeeps⟩
    · obtain ⟨hsaved', hkeeps'⟩ := (hf x).failed h
      exact ⟨hsaved'.trans hsaved, hkeeps.trans hkeeps'⟩
  · intro s t y h
    obtain ⟨x, s', hx, hy⟩ := exists_of_outcome_bind h
    obtain ⟨-, hkeeps⟩ := ha s
    rw [hx] at hkeeps
    obtain ⟨hpending, hkeeps'⟩ := (hf x).done hy
    exact ⟨hpending, hkeeps.trans hkeeps'⟩

theorem commits_save (k : Option (String × String)) : Commits k save := by
  constructor
  · intro s t e h
    cases h
  · intro s t x h
    cases h
    exact ⟨rfl, .refl _ _⟩

theorem Commits.bind_pure {k : Option (String × String)} {a : Action Store α} (h : Commits k a)
    (g : α → β) : Commits k (a >>= fun x => pure (g x)) := by
  constructor
  · intro s t e ho
    rw [outcome_bind] at ho
    rcases ha : a.outcome s with ⟨e' | x, s'⟩ <;> rw [ha] at ho <;> cases ho
    exact h.failed ha
  · intro s t y ho
    obtain ⟨x, s', ha, hx⟩ := exists_of_outcome_bind ho
    cases hx
    exact h.done ha

end Commits

/-! ### What the statements commit -/

theorem commits_createUser (id name : Option String) : Commits none (createUser id name) := by
  have hwrite : Commits none (do
      let row : UserRow := ⟨id, name, ← now⟩
      insert (·.insertUser row)
      save
      return row) :=
    stages_now.commits_bind fun time =>
      (stages_insert fun _ _ h => Tables.keeps_insertUser h).commits_bind fun _ =>
        (commits_save none).bind_pure _
  rcases id with _ | id
  · exact hwrite
  · refine (stages_of_isRead (isRead_lookUp _ _)).commits_bind fun row => ?_
    split_ifs
    · exact (stages_of_isRead (isRead_throw _)).commits_bind fun _ => hwrite
    · exact hwrite

theorem commits_createRoom (creator : Option String) (server : String)
    (invited : List (Option String)) (isDirect : Option Bool) :
    Commits none (createRoom creator server invited isDirect) := by
  refine (stages_of_isRead (isRead_requireUser _ _)).commits_bind fun x => ?_
  refine (stages_of_isRead (isRead_mapM (fun _ => isRead_requireUser _ _) _)).commits_bind
    fun found => ?_
  refine (stages_freshRoom server).commits_bind fun id => ?_
  refine stages_now.commits_bind fun time => ?_
  refine (stages_of_isRead (isRead_lift _)).commits_bind fun isDirect => ?_
  refine (stages_insert fun _ _ h => Tables.keeps_insertRoom h).commits_bind fun _ => ?_
  have hmember : ∀ row, Stages (insert (·.insertMember row)) :=
    fun row => stages_insert fun _ _ h => Tables.keeps_insertMember h
  refine (hmember _).commits_bind fun _ => ?_
  refine (stages_forM (fun _ => hmember _) _).commits_bind fun _ => ?_
  exact (commits_save none).bind_pure _

theorem commits_setDocument (user type : String) (content : Value) :
    Commits none (setDocument user type content) := by
  refine stages_now.commits_bind fun _ => ?_
  refine (stages_insert fun _ _ h => Tables.keeps_putDocument h).commits_bind fun _ => ?_
  exact commits_save none

/-- A record that cannot be put leaves everything as it was; no other statement replaces rows. -/
theorem commits_setMembership (room user membership : String) (isDirect : Option Bool) :
    Commits (some (room, user)) (setMembership room user membership isDirect) := by
  refine (stages_of_isRead (isRead_lookUp _ _)).commits_bind fun row => ?_
  refine stages_now.commits_bind fun time => ?_
  constructor
  · intro s t e h
    rw [outcome_bind, outcome_insert_eq] at h
    rcases hput : s.live.putMember _ with e' | u <;> rw [hput] at h <;> cases h
    exact ⟨rfl, .refl _ _⟩
  · intro s t x h
    rw [outcome_bind, outcome_insert_eq] at h
    rcases hput : s.live.putMember _ with e' | u <;> rw [hput] at h <;> cases h
    exact ⟨rfl, Tables.keeps_putMember hput⟩

/-- **A statement that fails commits nothing, and one that succeeds commits everything.** -/
theorem Statement.commits (w : Statement) : Commits w.replaced? w.run := by
  cases w with
  | prepare => exact commits_save none
  | createUser id name => exact (commits_createUser id name).bind_pure _
  | createRoom creator server invited isDirect =>
    exact (commits_createRoom creator server invited isDirect).bind_pure _
  | setMembership room user membership isDirect =>
    exact (commits_setMembership room user membership isDirect).bind_pure _
  | setDocument user type content => exact commits_setDocument user type content

/-- While statements fail, nothing is committed and nothing that was staged is lost. -/
theorem keeps_after {s : Store} {ws : List Statement}
    (h : ∀ r ∈ log Statement.run s ws, ∃ e, r = .error e) :
    (after Statement.run s ws).saved = s.saved ∧
      Tables.Keeps none s.live (after Statement.run s ws).live := by
  induction ws generalizing s with
  | nil => exact ⟨rfl, .refl _ _⟩
  | cons w ws ih =>
    obtain ⟨e, he⟩ := h _ List.mem_cons_self
    obtain ⟨hsaved, hkeeps⟩ := w.commits.failed (Prod.ext he rfl)
    obtain ⟨hsaved', hkeeps'⟩ := ih fun r hr => h r (List.mem_cons_of_mem _ hr)
    exact ⟨hsaved'.trans hsaved, hkeeps.trans hkeeps'⟩

/-! ### The next room -/

/-- **A room whose records could not all be written.** The connection shows the rows that were
written before the failure, and nothing else that is new. -/
structure HalfMade (s b : Store) (room : RoomRow) (records : List MemberRow) : Prop where
  live : b.live = s.live.withRoom room records
  saved : b.saved = s.saved
  dropped : b.reopen.live = s.saved
  /-- Whatever fails before it, the next statement that succeeds commits the room with its
  records, but for the one that it replaces. -/
  kept : ∀ (failed : List Statement) (w : Statement) (t : Store),
    (∀ r ∈ log Statement.run b failed, ∃ e, r = .error e) →
    w.run.outcome (after Statement.run b failed) = (.ok (), t) →
    t.reopen = t ∧ room ∈ t.saved.rooms ∧ ∀ m ∈ records, m ∈ t.saved.members ∨
      w.replaced? = some (m.roomId, m.userId) ∧ (t.saved.member? m.roomId m.userId).isSome

theorem halfMade_stage {s b : Store} (hs : b.saved = s.saved) (room : RoomRow)
    (records : List MemberRow) :
    HalfMade s (b.stage (s.live.withRoom room records)) room records where
  live := rfl
  saved := hs
  dropped := hs
  kept failed w t hfailed hw := by
    obtain ⟨-, hkeeps⟩ := keeps_after hfailed
    obtain ⟨hpending, hkeeps'⟩ := w.commits.done hw
    have hall := hkeeps.trans hkeeps'
    have hlive : t.live = t.saved := by rw [live, hpending, Option.getD_none]
    rw [live_stage, hlive] at hall
    refine ⟨?_, hall.rooms room ?_, fun m hm => ?_⟩
    · rw [reopen, ← hpending]
    · exact List.mem_append_right _ (List.mem_singleton_self room)
    · rcases hall.members m (List.mem_append_right _ hm) with hm | ⟨hk, hm⟩
      · exact .inl hm
      · exact .inr ⟨hk, hm⟩

/-- Where an item stands twice, there is a first one that stood there before. -/
theorem exists_first_twice {α : Type} [DecidableEq α] {seen l : List α} (hseen : seen.Nodup)
    (h : ¬ (seen ++ l).Nodup) :
    ∃ before x rest, l = before ++ x :: rest ∧ (seen ++ before).Nodup ∧ x ∈ seen ++ before := by
  induction l generalizing seen with
  | nil => exact absurd hseen (by rwa [List.append_nil] at h)
  | cons y l ih =>
    by_cases hy : y ∈ seen
    · exact ⟨[], y, l, rfl, by rwa [List.append_nil], by rwa [List.append_nil]⟩
    · have hseen' : (seen ++ [y]).Nodup := by
        rw [← List.concat_eq_append]
        exact hseen.concat hy
      obtain ⟨before, x, rest, rfl, hb, hx⟩ := ih hseen' (by rwa [List.append_assoc])
      rw [List.append_assoc] at hb hx
      exact ⟨y :: before, x, rest, rfl, hb, hx⟩

/-- **The outcome of making a room.** A maker or a guest that nobody knows is named, and nothing
changes; nor does any row if the room cannot be named, since the name of its server cannot be
encoded.  A room with a record for everybody is added in one commit.  Where somebody would get a
second record, the room is half made: it has the records up to the first one that stands there
twice. -/
theorem createRoom_exact {s : Store} (hv : s.live.Valid) {server : String}
    (hfresh : s.live.room? (roomName server s.nextRoom) = none) (creator : String)
    (invited : List String) (isDirect : Bool) :
    let o := (createRoom (some creator) server (invited.map some) (some isDirect)).outcome s
    let room := s.nextRoomRow server creator isDirect
    let isUnknown := fun id => (s.live.user? id).isNone
    (isUnknown creator → o = (.error (unknown .noCreator creator), s)) ∧
    (¬ isUnknown creator → ∀ id, invited.find? isUnknown = some id →
      o = (.error (unknown .noInvitee id), s)) ∧
    (¬ isUnknown creator → invited.find? isUnknown = none → ¬ Text.isEncodable server →
      o = (.error (.unencodable room.id), s.numbered)) ∧
    (¬ isUnknown creator → invited.find? isUnknown = none → Text.isEncodable server →
      ((creator :: invited).Nodup → o = (.ok room, s.numbered.commit
        (s.live.withRoom room (s.firstRecords server creator isDirect invited)))) ∧
      (¬ (creator :: invited).Nodup → ∃ before id rest, invited = before ++ id :: rest ∧
        (creator :: before).Nodup ∧ id ∈ creator :: before ∧ o.1 = .error .constraint ∧
        HalfMade s o.2 room (s.firstRecords server creator isDirect before))) := by
  intro o room isUnknown
  have hknown : ∀ id, ¬ isUnknown id → (s.live.user? id).isSome := by
    intro id hid
    rwa [Bool.not_eq_true, Option.isNone_eq_false_iff] at hid
  have hguests : invited.find? isUnknown = none → ∀ g ∈ invited, (s.live.user? g).isSome :=
    fun h g hg => hknown g (List.find?_eq_none.mp h g hg)
  refine ⟨fun hc => ?_, fun hc id hid => ?_, fun hc hi hserver => ?_, fun hc hi hserver => ?_⟩
  · exact outcome_createRoom_unknown server _ _ (Option.isNone_iff_eq_none.mp hc)
  · obtain ⟨hnone, before, after, rfl, hbefore⟩ := List.find?_eq_some_iff_append.mp hid
    exact outcome_createRoom_noGuest hv before after (hknown creator hc)
      (fun x hx => hknown x (by simpa using hbefore x hx)) (Option.isNone_iff_eq_none.mp hnone)
  · rw [Bool.not_eq_true] at hserver
    exact outcome_createRoom_unnamed hv (hknown creator hc) (hguests hi) hserver
  · refine ⟨fun hnodup => ?_, fun hnodup => ?_⟩
    · exact outcome_createRoom_all hv (hknown creator hc) (hguests hi) hserver hfresh hnodup
    · obtain ⟨before, id, rest, rfl, hbefore, hid⟩ :=
        exists_first_twice (List.nodup_singleton creator) hnodup
      have ho : o = _ := outcome_createRoom_twice hv before rest (hknown creator hc) (hguests hi)
        hserver hfresh hbefore hid
      refine ⟨before, id, rest, rfl, hbefore, hid, by rw [ho], ?_⟩
      rw [ho]
      exact halfMade_stage (s := s) (b := s.numbered) rfl room _

/-- Alice and Bob are registered, and nothing else is in the store. -/
def twoUsers : Store where
  saved := { users := [⟨some "@alice:localhost", some "Alice", 0⟩,
    ⟨some "@bob:localhost", some "Bob", 1⟩] }
  clock := 2

/-- Bob is invited twice. The room has his record once. -/
theorem createRoom_exact_twice :
    twoUsers.live.Valid ∧ twoUsers.live.room? (roomName "localhost" twoUsers.nextRoom) = none ∧
      let o := (createRoom (some "@alice:localhost") "localhost"
        (["@bob:localhost", "@bob:localhost"].map some) (some true)).outcome twoUsers
      o.1 = .error .constraint ∧
        HalfMade twoUsers o.2 ⟨"!room1:localhost", "@alice:localhost", true, 2⟩
          [⟨"!room1:localhost", "@alice:localhost", "join", some "Alice", none, 2⟩,
            ⟨"!room1:localhost", "@bob:localhost", "invite", some "Bob", some true, 2⟩] := by
  have hv : twoUsers.live.Valid := by constructor <;> decide
  have hfresh : twoUsers.live.room? (roomName "localhost" twoUsers.nextRoom) = none := rfl
  refine ⟨hv, hfresh, ?_⟩
  obtain ⟨before, id, rest, hsplit, hbefore, hid, hfail, hmade⟩ :=
    (createRoom_exact hv hfresh "@alice:localhost" ["@bob:localhost", "@bob:localhost"] true).2.2.2
      (by decide) (by decide) (by decide) |>.2 (by decide)
  have hbob : before = ["@bob:localhost"] := by
    rcases before with _ | ⟨x, _ | ⟨y, before⟩⟩
    · cases hsplit
      exact absurd hid (by decide)
    · cases hsplit
      rfl
    · have hlength := congrArg List.length hsplit
      simp at hlength
  subst hbob
  exact ⟨hfail, hmade⟩

/-- A server with half a character for a name. Alice makes no room there with Bob, though nobody
would get a second record, and with herself she fails before her second record does. -/
theorem createRoom_halfServer :
    let server := String.ofList (Text.half 0xD800)
    let o := fun guest => (createRoom (some "@alice:localhost") server [some guest]
      (some true)).outcome twoUsers
    twoUsers.live.Valid ∧ twoUsers.live.room? (roomName server twoUsers.nextRoom) = none ∧
      (o "@bob:localhost").1 = .error (.unencodable (roomName server 1)) ∧
      (o "@bob:localhost").2.live.rooms = [] ∧
      (o "@alice:localhost").1 ≠ .error .constraint ∧ (o "@alice:localhost").2.live.rooms = [] := by
  refine ⟨?_, ?_, ?_, ?_, ?_, ?_⟩
  · constructor <;> decide
  all_goals decide +kernel

end PairChat.Store
