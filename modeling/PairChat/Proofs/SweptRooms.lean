import PairChat.Proofs.NotedCalls
import PairChat.Proofs.Resolution

/-!
# Swept rooms: resolution at any provider

What resolution asks of a provider and what it answers, whatever the provider is: it may list a room
more than once, list rooms in its registry that are not there, and fail at every call.

* `Leaving`: rooms are left one after the other, up to the first that cannot be left.
* `resolve_exact`: **the calls that resolution makes, in order, and its answer.**
* `deserted_answer_iff`: when the answer has a room that some member has left, `Deserted`. The
  flagged rooms stand in for the listed ones as they were fetched, and nobody looks at their members
  again.
-/

namespace PairChat.Resolver

open PairChat.Action

variable {σ : Type} {p : Provider σ}

/-- **Rooms are left in order, up to and including the first that cannot be left.** The second list
holds the rooms that were tried; the outcome is that of the last one. -/
inductive Leaving (p : Provider σ) : σ → List Room → List Room → Except Failure Unit → σ → Prop
  | done (s) : Leaving p s [] [] (.ok ()) s
  | failed {s t x rooms e} (h : (p.leave x.id).outcome s = (.error e, t)) :
      Leaving p s (x :: rooms) [x] (.error e) t
  | next {s t u x rooms tried r} (h : (p.leave x.id).outcome s = (.ok (), t))
      (hs : Leaving p t rooms tried r u) : Leaving p s (x :: rooms) (x :: tried) r u

/-- The call that leaves a room. -/
def leaveCall (x : Room) : ProviderCall := .leave x.id

/-- Where all rooms could be left, all were tried. -/
theorem Leaving.eq_of_ok {s t : σ} {rooms tried : List Room} {r : Except Failure Unit}
    (h : Leaving p s rooms tried r t) (hr : r = .ok ()) : tried = rooms := by
  induction h with
  | done => rfl
  | failed => cases hr
  | next _ _ ih => rw [ih hr]

/-! ### The rooms that are chosen -/

/-- Some member has left the room. -/
def Deserted (x : Room) : Prop := ∃ r ∈ x.members, r.membership = .left

instance (x : Room) : Decidable (Deserted x) :=
  inferInstanceAs (Decidable (∃ r ∈ x.members, r.membership = .left))

/-- Some record of the room was made for a direct chat. -/
def Flagged (x : Room) : Prop := ∃ r ∈ x.members, r.isDirect = some true

instance (x : Room) : Decidable (Flagged x) :=
  inferInstanceAs (Decidable (∃ r ∈ x.members, r.isDirect = some true))

theorem isStale_eq (x : Room) : isStale x = decide (Deserted x) := by
  rw [Bool.eq_iff_iff, decide_eq_true_iff]
  exact Room.hasMemberWith_iff

section Chosen
variable (all : List Room) (listed : List String) (m : Membership)

theorem candidates_eq_filter :
    candidates all listed m = all.filter fun x => x.membership = m ∧ x.id ∈ listed :=
  List.filter_congr fun x _ => by
    rw [Bool.eq_iff_iff, Bool.and_eq_true, beq_iff_eq, List.contains_iff_mem, decide_eq_true_iff]

theorem flagged_eq_filter :
    flagged all m = all.filter fun x => x.membership = m ∧ Flagged x := by
  refine List.filter_congr fun x _ => ?_
  rw [Bool.eq_iff_iff, decide_eq_true_iff, Bool.and_eq_true, beq_iff_eq, Room.hasDirectFlag_iff]
  rfl

/-- The stale rooms are those listed rooms that some member has left. -/
theorem stale_eq_filter : (candidates all listed m).filter isStale =
    (all.filter fun x => x.membership = m ∧ x.id ∈ listed).filter fun x => Deserted x := by
  rw [candidates_eq_filter]
  exact List.filter_congr fun x _ => isStale_eq x

/-- What remains are the listed rooms that nobody has left, or else the flagged rooms. -/
theorem remaining_eq : remaining all listed m =
    let kept := (all.filter fun x => x.membership = m ∧ x.id ∈ listed).filter fun x => ¬ Deserted x
    if kept = [] then all.filter fun x => x.membership = m ∧ Flagged x else kept := by
  have hkept : (candidates all listed m).filter (fun x => !isStale x) =
      (all.filter fun x => x.membership = m ∧ x.id ∈ listed).filter fun x => ¬ Deserted x := by
    rw [candidates_eq_filter]
    refine List.filter_congr fun x _ => ?_
    rw [isStale_eq, decide_not]
  simp only [remaining, List.isEmpty_iff, hkept, flagged_eq_filter]

/-- The flagged rooms remain where all the listed rooms are deserted. -/
theorem mem_remaining_iff (x : Room) :
    let direct := all.filter fun x => x.membership = m ∧ x.id ∈ listed
    x ∈ remaining all listed m ↔
      ((∀ y ∈ direct, Deserted y) ∧ x ∈ all.filter fun x => x.membership = m ∧ Flagged x) ∨
        (x ∈ direct ∧ ¬ Deserted x) := by
  intro direct
  have hnil : direct.filter (fun y => ¬ Deserted y) = [] ↔ ∀ y ∈ direct, Deserted y := by
    simp only [List.filter_eq_nil_iff, decide_eq_true_iff, not_not]
  have hmem : x ∈ direct.filter (fun y => ¬ Deserted y) ↔ x ∈ direct ∧ ¬ Deserted x := by
    rw [List.mem_filter, decide_eq_true_iff]
  rw [remaining_eq]
  by_cases hall : ∀ y ∈ direct, Deserted y
  · have hx : ¬ (x ∈ direct ∧ ¬ Deserted x) := fun hx => hx.2 (hall x hx.1)
    dsimp only
    rw [if_pos (hnil.mpr hall)]
    exact ⟨fun hf => .inl ⟨hall, hf⟩, fun hf => (hf.resolve_right hx).2⟩
  · dsimp only
    rw [if_neg fun h => hall (hnil.mp h)]
    exact ⟨fun hf => .inr (hmem.mp hf), fun hf => hmem.mpr (hf.resolve_left fun hf => hall hf.1)⟩

end Chosen

/-! ### What a sweep asks for -/

/-- **The rooms are left in order, and nothing else is asked for.** -/
theorem exists_leaving (p : Provider σ) (s : σ) (calls : List ProviderCall) (rooms : List Room) :
    ∃ tried r t, Leaving p s rooms tried r t ∧
      (rooms.forM fun x => p.noted.leave x.id).outcome (s, calls) =
        (r, t, calls ++ tried.map leaveCall) := by
  induction rooms generalizing s calls with
  | nil => exact ⟨[], .ok (), s, .done s, by simp⟩
  | cons x rooms ih =>
    have hx : (p.noted.leave x.id).outcome (s, calls) =
        (((p.leave x.id).outcome s).1, ((p.leave x.id).outcome s).2, calls ++ [leaveCall x]) := rfl
    rcases ho : (p.leave x.id).outcome s with ⟨e | ⟨⟩, t⟩ <;> rw [ho] at hx
    · refine ⟨[x], .error e, t, .failed ho, ?_⟩
      exact outcome_bind_error hx
    · obtain ⟨tried, r, u, hl, hu⟩ := ih t (calls ++ [leaveCall x])
      refine ⟨x :: tried, r, u, .next ho hl, ?_⟩
      show (p.noted.leave x.id >>= fun _ => rooms.forM fun x => p.noted.leave x.id).outcome _ = _
      rw [outcome_bind_ok hx, hu, List.map_cons, List.append_assoc]
      rfl

/-! ### Resolution -/

theorem outcome_resolve_of_noted (p : Provider σ) (owner : String) (m : Membership) (s : σ)
    (calls : List ProviderCall) :
    let o := (resolve p.noted (.text owner) m).outcome (s, calls)
    (resolve p (.text owner) m).outcome s = (o.1, o.2.1) :=
  outcome_of_noted (paired_resolve_like (like_noted p) (.text owner) m) s calls

/-- Resolution with the rooms and the registry at hand. -/
theorem outcome_resolve_noted {owner : String} (howner : owner ≠ "") (m : Membership) {s t : σ}
    {calls called : List ProviderCall} {all : List Room} {registry : Registry String}
    (hfetch : (fetch p.noted).outcome (s, calls) = (.ok (all, registry), t, called)) :
    let listed := registry.roomsOf owner
    ∃ tried r u, Leaving p t ((candidates all listed m).filter isStale) tried r u ∧
      (resolve p.noted (.text owner) m).outcome (s, calls) =
        (r.map fun _ => remaining all listed m, u, called ++ tried.map leaveCall) := by
  intro listed
  obtain ⟨tried, r, u, hl, hleave⟩ :=
    exists_leaving p t called ((candidates all listed m).filter isStale)
  refine ⟨tried, r, u, hl, ?_⟩
  have hlisted : Resolver.listed registry (.text owner) = .ok listed := rfl
  rw [resolve_eq, Store.Account.knownOwner_text howner, outcome_bind_ok (outcome_lift _ _),
    outcome_bind_ok hfetch]
  dsimp only
  rw [hlisted, outcome_bind_ok (outcome_lift _ _)]
  exact outcome_bind_pure (fun _ => remaining all listed m) hleave

/-- Resolution without the rooms or the registry. -/
theorem outcome_resolve_noted_error {owner : String} (howner : owner ≠ "") (m : Membership)
    {s t : σ} {calls called : List ProviderCall} {e : Failure}
    (hfetch : (fetch p.noted).outcome (s, calls) = (.error e, t, called)) :
    (resolve p.noted (.text owner) m).outcome (s, calls) = (.error e, t, called) := by
  rw [resolve_eq, Store.Account.knownOwner_text howner, outcome_bind_ok (outcome_lift _ _),
    outcome_bind_error hfetch]

/-- **What resolution asks of a provider, in order, and what it answers.** The rooms and the
registry are fetched, whatever becomes of either.  Then the listed rooms in the state that some
member has left are left in order, as far as this goes, and nothing else is asked for. -/
theorem resolve_exact (p : Provider σ) {owner : String} (howner : owner ≠ "") (m : Membership)
    (s : σ) (calls : List ProviderCall) :
    let rooms := p.rooms.outcome s
    let registry := p.registry?.outcome rooms.2
    let fetched := calls ++ [.rooms, .registry]
    let o := (resolve p.noted (.text owner) m).outcome (s, calls)
    (resolve p (.text owner) m).outcome s = (o.1, o.2.1) ∧
    (∀ e, rooms.1 = .error e → o = (.error e, registry.2, fetched)) ∧
    (∀ all e, rooms.1 = .ok all → registry.1 = .error e → o = (.error e, registry.2, fetched)) ∧
    ∀ all reg, rooms.1 = .ok all → registry.1 = .ok reg →
      let direct := all.filter fun x => x.membership = m ∧ x.id ∈ (reg.getD []).roomsOf owner
      let stale := direct.filter fun x => Deserted x
      let kept := direct.filter fun x => ¬ Deserted x
      let flagged := all.filter fun x => x.membership = m ∧ Flagged x
      ∃ tried r t, Leaving p registry.2 stale tried r t ∧
        o = (r.map fun _ => if kept = [] then flagged else kept, t,
          fetched ++ tried.map leaveCall) := by
  intro rooms registry fetched o
  have hfetch : (fetch p.noted).outcome (s, calls) =
      ((do return (← rooms.1, (← registry.1).getD [])), registry.2, fetched) :=
    outcome_fetch_noted p s calls
  refine ⟨outcome_resolve_of_noted p owner m s calls, fun e he => ?_, fun all e hall he => ?_,
    fun all reg hall hreg => ?_⟩
  · rw [he] at hfetch
    exact outcome_resolve_noted_error howner m hfetch
  · rw [hall, he] at hfetch
    exact outcome_resolve_noted_error howner m hfetch
  · intro direct stale kept flagged'
    rw [hall, hreg] at hfetch
    obtain ⟨tried, r, t, hl, hleave⟩ := outcome_resolve_noted howner m hfetch
    rw [stale_eq_filter] at hl
    rw [remaining_eq] at hleave
    exact ⟨tried, r, t, hl, hleave⟩

/-- A room that Bob has left, as Alice sees it. -/
def staleRoom : Room where
  id := "!stale:localhost"
  membership := .joined
  members := [⟨"@alice:localhost", .joined, some "Alice", none⟩,
    ⟨"@bob:localhost", .left, some "Bob", some true⟩]

/-- A room that Carol has left, as Alice sees it. -/
def stuckRoom : Room where
  id := "!stuck:localhost"
  membership := .joined
  members := [⟨"@alice:localhost", .joined, some "Alice", none⟩,
    ⟨"@carol:localhost", .left, some "Carol", some true⟩]

/-- Leaving a room that is refused. -/
def refusal : Failure := .rejected (.ofTexts 403 "M_FORBIDDEN" "Not in room")

/-- Both rooms are shown twice. The first is on the list twice, and the second cannot be left. -/
def doubled : Script where
  account := .text "@alice:localhost"
  rooms := [staleRoom, stuckRoom, staleRoom, stuckRoom]
  registry := some [("@alice:localhost", [staleRoom.id, staleRoom.id, stuckRoom.id])]
  rejects := fun call => if call = leaveCall stuckRoom then
    some (.ofTexts 403 "M_FORBIDDEN" "Not in room") else none

/-- The sweep ends at the first room that cannot be left. -/
theorem resolve_exact_doubled :
    "@alice:localhost" ≠ "" ∧
      (resolve doubled.provider.noted (.text "@alice:localhost") .joined).outcome ([], []) =
        (.error refusal, [leaveCall staleRoom, leaveCall stuckRoom],
          [.rooms, .registry, leaveCall staleRoom, leaveCall stuckRoom]) := by
  have howner : "@alice:localhost" ≠ "" := by decide
  obtain ⟨tried, r, t, hl, ho⟩ :=
    (resolve_exact doubled.provider howner .joined [] []).2.2.2 doubled.rooms doubled.registry rfl
      rfl
  have hl' : Leaving doubled.provider [] doubled.rooms tried r t := hl
  refine ⟨howner, ?_⟩
  cases hl' with
  | failed h => cases h
  | next h hs =>
    cases h
    cases hs with
    | failed h =>
      cases h
      exact ho
    | next h hs => cases h

/-! ### Rooms of the answer that some member has left -/

/-- A resolution that answers has fetched the rooms and the registry, and it has left every stale
room. -/
theorem exists_of_resolve {owner : String} {m : Membership} {s t : σ} {answer : List Room}
    (h : (resolve p (.text owner) m).outcome s = (.ok answer, t)) :
    ∃ all reg, (p.rooms.outcome s).1 = .ok all ∧
      (p.registry?.outcome (p.rooms.outcome s).2).1 = .ok reg ∧
      answer = remaining all ((reg.getD []).roomsOf owner) m ∧
      ((resolve p.noted (.text owner) m).outcome (s, [])).2.2 = [.rooms, .registry] ++
        ((candidates all ((reg.getD []).roomsOf owner) m).filter isStale).map leaveCall := by
  have howner : owner ≠ "" := by
    rintro rfl
    cases h
  have hr : ((resolve p.noted (.text owner) m).outcome (s, [])).1 = .ok answer :=
    congrArg Prod.fst ((outcome_resolve_of_noted p owner m s []).symm.trans h)
  have hfetch := outcome_fetch_noted p s []
  dsimp only at hfetch
  rcases hall : (p.rooms.outcome s).1 with e | all <;> rw [hall] at hfetch
  · rw [outcome_resolve_noted_error howner m hfetch] at hr
    cases hr
  · rcases hreg : (p.registry?.outcome (p.rooms.outcome s).2).1 with e | reg <;> rw [hreg] at hfetch
    · rw [outcome_resolve_noted_error howner m hfetch] at hr
      cases hr
    · obtain ⟨tried, r, u, hl, ho⟩ := outcome_resolve_noted howner m hfetch
      rw [ho] at hr ⊢
      rcases r with e | ⟨⟩
      · cases hr
      · obtain rfl := hl.eq_of_ok rfl
        cases hr
        exact ⟨all, reg, rfl, rfl, rfl, rfl⟩

/-- **When the answer has a room that some member has left.** Such rooms are exactly the flagged
rooms that are deserted, and they are in the answer if and only if no listed room is kept.  A room
that this call has left is in the answer if it is flagged and no listed room is kept, or if another
entry with its identifier is kept. -/
theorem deserted_answer_iff {owner : String} {m : Membership} {s t : σ} {answer : List Room}
    (h : (resolve p (.text owner) m).outcome s = (.ok answer, t)) :
    ∃ all reg, (p.rooms.outcome s).1 = .ok all ∧
      (p.registry?.outcome (p.rooms.outcome s).2).1 = .ok reg ∧
      let direct := all.filter fun x => x.membership = m ∧ x.id ∈ (reg.getD []).roomsOf owner
      let flagged := all.filter fun x => x.membership = m ∧ Flagged x
      let left := (direct.filter fun x => Deserted x).map leaveCall
      ((resolve p.noted (.text owner) m).outcome (s, [])).2.2 = [.rooms, .registry] ++ left ∧
      ∀ x, (x ∈ answer ∧ Deserted x ↔ (∀ y ∈ direct, Deserted y) ∧ x ∈ flagged ∧ Deserted x) ∧
        (x ∈ answer ∧ leaveCall x ∈ left ↔
          (∀ y ∈ direct, Deserted y) ∧ x ∈ flagged ∧ leaveCall x ∈ left ∨
            x ∈ direct ∧ ¬ Deserted x ∧ ∃ y ∈ direct, Deserted y ∧ y.id = x.id) := by
  obtain ⟨all, reg, hall, hreg, rfl, hcalls⟩ := exists_of_resolve h
  refine ⟨all, reg, hall, hreg, ?_⟩
  intro direct flagged left
  have hmem : ∀ x, x ∈ remaining all ((reg.getD []).roomsOf owner) m ↔ _ :=
    mem_remaining_iff all ((reg.getD []).roomsOf owner) m
  have hleft : ∀ x, leaveCall x ∈ left ↔ ∃ y ∈ direct, Deserted y ∧ y.id = x.id := by
    intro x
    simp only [left, List.mem_map, List.mem_filter, decide_eq_true_iff, leaveCall,
      ProviderCall.leave.injEq, and_assoc]
  rw [stale_eq_filter] at hcalls
  refine ⟨hcalls, fun x => ⟨?_, ?_⟩⟩
  · rw [hmem]
    constructor
    · rintro ⟨⟨hd, hf⟩ | ⟨-, hn⟩, hx⟩
      · exact ⟨hd, hf, hx⟩
      · exact absurd hx hn
    · rintro ⟨hd, hf, hx⟩
      exact ⟨.inl ⟨hd, hf⟩, hx⟩
  · rw [hmem, hleft]
    constructor
    · rintro ⟨⟨hd, hf⟩ | ⟨hx, hn⟩, hl⟩
      · exact .inl ⟨hd, hf, hl⟩
      · exact .inr ⟨hx, hn, hl⟩
    · rintro (⟨hd, hf, hl⟩ | ⟨hx, hn, hl⟩)
      · exact ⟨.inl ⟨hd, hf⟩, hl⟩
      · exact ⟨.inr ⟨hx, hn⟩, hl⟩

/-- A room that nobody has left, as Alice sees it. -/
def openRoom : Room where
  id := "!open:localhost"
  membership := .joined
  members := [⟨"@alice:localhost", .joined, some "Alice", none⟩,
    ⟨"@dave:localhost", .invited, some "Dave", some true⟩]

/-- Both rooms are listed. -/
def oneOpen : Script where
  rooms := [staleRoom, openRoom]
  registry := some [("@alice:localhost", [openRoom.id, staleRoom.id])]

/-- One listed room is kept, and so no room of the answer is deserted. -/
theorem deserted_answer_iff_open :
    (resolve oneOpen.provider (.text "@alice:localhost") .joined).outcome [] =
        (.ok [openRoom], [leaveCall staleRoom]) ∧
      ∀ x, ¬ (x ∈ [openRoom] ∧ Deserted x) := by
  have h : (resolve oneOpen.provider (.text "@alice:localhost") .joined).outcome [] =
    (.ok [openRoom], [leaveCall staleRoom]) := rfl
  obtain ⟨all, reg, hall, hreg, -, hx⟩ := deserted_answer_iff h
  cases hall
  cases hreg
  refine ⟨h, fun x hd => ?_⟩
  have hopen : ¬ Deserted openRoom := by decide
  exact hopen (((hx x).1.mp hd).1 openRoom (by decide))

/-- Only one room is listed, and a member has left each of the two. -/
def noneOpen : Script where
  rooms := [staleRoom, stuckRoom]
  registry := some [("@alice:localhost", [staleRoom.id])]

/-- The listed room has just been left, and it is in the answer; the other one is there, too. -/
theorem deserted_answer_left :
    (resolve noneOpen.provider (.text "@alice:localhost") .joined).outcome [] =
        (.ok [staleRoom, stuckRoom], [leaveCall staleRoom]) ∧
      Deserted staleRoom ∧ Deserted stuckRoom :=
  ⟨rfl, by decide, by decide⟩

end PairChat.Resolver
