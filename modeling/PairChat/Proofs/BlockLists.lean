import PairChat.BlockList
import PairChat.Lifecycle
import PairChat.Proofs.TwoRuns
import Mathlib.Data.List.Induction
import Mathlib.Data.List.Nodup

/-!
# Block lists: who is on them, and in which order

A block list that was written by this library is a list of users (`BlockList.ofUsers`), and the
operations on it are operations on that list.  `usersAfter calls` are the users after some calls.
It has no repetition, it holds those whose last call was to block them, and it is in the order of
the calls since when they are blocked (`inOrder_usersAfter`).

A provider keeps a block list if a call does to its states what it does to the list
(`Provider.KeepsBlockList`); then its runs answer as the list says.  For that it is enough that
reading and writing the whole list do what they should (`Provider.ReadsAndWrites.keepsBlockList`).
-/

namespace PairChat

/-! ### Lists of users -/

namespace BlockList

/-- The block list with these users. -/
def ofUsers (users : List String) : BlockList := users.map fun user => (.text user, .map [])

variable {users : List String} {user : String}

theorem contains_ofUsers : (ofUsers users).contains user = decide (user ∈ users) := by
  unfold contains ofUsers
  rw [Bool.eq_iff_iff, List.any_map, List.any_eq_true, decide_eq_true_iff]
  simp only [Function.comp_apply, Scalar.same_text, decide_eq_true_iff]
  constructor
  · rintro ⟨u, hu, rfl⟩
    exact hu
  · intro hu
    exact ⟨user, hu, rfl⟩

theorem accounts_ofUsers : (ofUsers users).accounts = users.map .text := by
  unfold accounts ofUsers
  rw [List.map_map]
  rfl

theorem block_ofUsers : (ofUsers users).block user =
    ofUsers (if user ∈ users then users else users ++ [user]) := by
  unfold block ofUsers
  induction users with
  | nil => rfl
  | cons u users ih =>
    by_cases hu : u = user
    · simp [putEntry, Scalar.sameKey_text, hu]
    · rw [List.map_cons, putEntry, Scalar.sameKey_text, decide_eq_false hu,
        if_neg Bool.false_ne_true, ih]
      by_cases hmem : user ∈ users <;> simp [hmem, Ne.symm hu]

theorem unblock_ofUsers : (ofUsers users).unblock user = ofUsers (users.filter (· ≠ user)) := by
  unfold unblock eraseEntry ofUsers
  rw [List.filter_map]
  congr 2
  funext u
  by_cases hu : u = user <;> simp [Scalar.sameKey_text, hu]

/-! ### As a document -/

theorem anyEntry_ofUsers (p : Scalar → Bool) :
    Json.anyEntry p (ofUsers users) = users.any fun user => p (.text user) := by
  induction users with
  | nil => rfl
  | cons user users ih =>
    have he : Json.anyEntry p (ofUsers (user :: users)) =
        (p (.text user) || false || Json.anyEntry p (ofUsers users)) := rfl
    rw [he, ih, Bool.or_false, List.any_cons]

section Document
variable (h : users.Nodup)
include h

theorem distinctEntries_ofUsers : distinctEntries (ofUsers users) = ofUsers users := by
  induction users using List.reverseRecOn with
  | nil => rfl
  | append_singleton users user ih =>
    obtain ⟨hn, -, hd⟩ := List.nodup_append.mp h
    have hnew : user ∉ users := fun hu => hd user hu user List.mem_cons_self rfl
    have hput : distinctEntries (ofUsers (users ++ [user])) =
        block (distinctEntries (ofUsers users)) user := by
      unfold distinctEntries ofUsers
      rw [List.map_append, List.foldl_append]
      rfl
    rw [hput, ih hn, block_ofUsers, if_neg hnew]

theorem toContent_ofUsers :
    (ofUsers users).toContent = .object [(field, .map (ofUsers users))] := by
  have hkeys : (ofUsers users).map (fun e => (Scalar.text (Json.keyText e.1), e.2)) =
      ofUsers users := by
    unfold ofUsers
    rw [List.map_map]
    rfl
  have hd := distinctEntries_ofUsers h
  unfold toContent Json.ofEntries
  rw [hkeys, hd]

theorem ofContent_ofUsers : ofContent (ofUsers users).toContent = .ok (ofUsers users) := by
  rw [toContent_ofUsers h]
  rfl

/-- A block list has a strict form if its users have. -/
theorem unwritten?_ofUsers (hw : ∀ user ∈ users, Json.unwritten? (.text user) = none) :
    Json.unwritten? (ofUsers users).toContent = none := by
  have hwhole : ∀ user ∈ users, Json.isBroken (.text user) = false := by
    intro user hu
    by_contra hb
    have hw := hw user hu
    rw [Bool.not_eq_false] at hb
    simp [Json.unwritten?, Json.anyScalar, Json.isUnlimited, hb] at hw
  have hu : Json.anyEntry Json.isUnlimited (ofUsers users) = false := by
    rw [anyEntry_ofUsers, List.any_eq_false]
    exact fun _ _ => Bool.false_ne_true
  have hb : Json.anyEntry Json.isBroken (ofUsers users) = false := by
    rw [anyEntry_ofUsers, List.any_eq_false]
    intro user hm
    rw [hwhole user hm]
    exact Bool.false_ne_true
  have hfield : Json.isBroken (.text field) = false := by decide
  rw [toContent_ofUsers h]
  simp [Json.unwritten?, Value.object, Json.anyScalar, Json.anyEntry, hu, hb, hfield,
    Json.isUnlimited]

end Document

end BlockList

/-! ### Calls -/

/-- A call about the block list of an account. -/
inductive BlockListCall where
  | block (user : String)
  | unblock (user : String)
  | list
deriving DecidableEq, Repr

namespace BlockListCall

/-- What a provider does for a call. -/
def run {σ : Type} (p : Provider σ) : BlockListCall → Action σ Answer
  | .block user => do p.block user; return .done
  | .unblock user => do p.unblock user; return .done
  | .list => return .accounts (← p.blocked)

/-- What a call makes of a list of users. -/
def apply (users : List String) : BlockListCall → List String
  | .block user => if user ∈ users then users else users ++ [user]
  | .unblock user => users.filter (· ≠ user)
  | .list => users

/-- What a call answers. -/
def answer (users : List String) : BlockListCall → Answer
  | .block _ | .unblock _ => .done
  | .list => .accounts (users.map .text)

theorem apply_unblock_of_not_mem {users : List String} {user : String} (hu : user ∉ users) :
    (unblock user).apply users = users := by
  refine List.filter_eq_self.mpr fun v hv => decide_eq_true fun he => hu ?_
  rwa [← he]

theorem mem_apply_iff {users : List String} {c : BlockListCall} {user : String} :
    user ∈ c.apply users ↔ c = .block user ∨ c ≠ .unblock user ∧ user ∈ users := by
  cases c with
  | list => simp [apply]
  | block u =>
    rw [apply]
    by_cases hu : u ∈ users
    · rw [if_pos hu]
      constructor
      · exact fun h => Or.inr ⟨by simp, h⟩
      · rintro (hc | ⟨-, h⟩)
        · cases hc
          exact hu
        · exact h
    · rw [if_neg hu]
      simp [or_comm, eq_comm]
  | unblock u =>
    rw [apply, List.mem_filter, decide_eq_true_iff]
    constructor
    · rintro ⟨h, hne⟩
      exact Or.inr ⟨by simpa using hne.symm, h⟩
    · rintro (hc | ⟨hne, h⟩)
      · cases hc
      · exact ⟨h, fun he => hne (by rw [he])⟩

theorem nodup_apply {users : List String} (h : users.Nodup) (c : BlockListCall) :
    (c.apply users).Nodup := by
  cases c with
  | list => exact h
  | block user =>
    rw [apply]
    split_ifs with hu
    · exact h
    · rw [← List.concat_eq_append]
      exact h.concat hu
  | unblock user => exact h.filter _

/-- Has a user who is blocked by the call a strict form? -/
def IsWritten : BlockListCall → Prop
  | .block user => Json.unwritten? (.text user) = none
  | .unblock _ | .list => True

end BlockListCall

/-- What calls answer, from a list of users on. -/
def answersFrom : List String → List BlockListCall → List (Except Failure Answer)
  | _, [] => []
  | users, c :: calls => .ok (c.answer users) :: answersFrom (c.apply users) calls

/-- **The users after some calls, when at first there was none.** -/
def usersAfter (calls : List BlockListCall) : List String := calls.foldl BlockListCall.apply []

/-! ### The order of the users -/

/-- The last call about the user is to block them. -/
def LastBlocked (calls : List BlockListCall) (user : String) : Prop :=
  ∃ i : Nat, calls[i]? = some (BlockListCall.block user) ∧
    ∀ j : Nat, i < j → calls[j]? ≠ some (BlockListCall.unblock user)

/-- The user is blocked since a call: it is the first one to block them after they were last
unblocked. -/
structure BlockedSince (calls : List BlockListCall) (user : String) (i : Nat) : Prop where
  call : calls[i]? = some (BlockListCall.block user)
  kept : ∀ j : Nat, i < j → calls[j]? ≠ some (BlockListCall.unblock user)
  first : ∀ k : Nat, k < i → calls[k]? = some (BlockListCall.block user) →
    ∃ j : Nat, k < j ∧ j < i ∧ calls[j]? = some (BlockListCall.unblock user)

/-- **The users who are blocked after some calls**, each once, in the order of the calls since when
they are. -/
structure InOrder (calls : List BlockListCall) (users : List String) : Prop where
  nodup : users.Nodup
  mem_iff : ∀ user, user ∈ users ↔ LastBlocked calls user
  sorted : users.Pairwise fun u v =>
    ∃ i j, BlockedSince calls u i ∧ BlockedSince calls v j ∧ i < j

section Snoc
variable {calls : List BlockListCall} {c : BlockListCall} {user : String} {i : Nat}

theorem getElem?_snoc {x : BlockListCall} :
    (calls ++ [c])[i]? = some x ↔ calls[i]? = some x ∨ i = calls.length ∧ c = x := by
  rcases Nat.lt_trichotomy i calls.length with h | rfl | h
  · rw [List.getElem?_append_left h]
    simp [Nat.ne_of_lt h]
  · simp
  · have hlong : (calls ++ [c]).length ≤ i := by
      rw [List.length_append, List.length_singleton]
      exact h
    rw [List.getElem?_eq_none hlong, List.getElem?_eq_none (Nat.le_of_lt h)]
    simp [Nat.ne_of_gt h]

theorem lt_length {x : BlockListCall} (h : calls[i]? = some x) : i < calls.length :=
  (List.getElem?_eq_some_iff.mp h).1

theorem lastBlocked_snoc : LastBlocked (calls ++ [c]) user ↔
    c = .block user ∨ c ≠ .unblock user ∧ LastBlocked calls user := by
  constructor
  · rintro ⟨i, hi, hkept⟩
    rcases getElem?_snoc.mp hi with hi | ⟨-, hc⟩
    · refine Or.inr ⟨fun hc => ?_, i, hi, fun j hj hu => hkept j hj (getElem?_snoc.mpr (.inl hu))⟩
      exact hkept calls.length (lt_length hi) (getElem?_snoc.mpr (.inr ⟨rfl, hc⟩))
    · exact Or.inl hc
  · rintro (rfl | ⟨hc, i, hi, hkept⟩)
    · refine ⟨calls.length, getElem?_snoc.mpr (.inr ⟨rfl, rfl⟩), fun j hj hu => ?_⟩
      rcases getElem?_snoc.mp hu with hu | ⟨rfl, -⟩
      · exact absurd (lt_length hu) (Nat.not_lt_of_gt hj)
      · exact absurd hj (Nat.lt_irrefl _)
    · refine ⟨i, getElem?_snoc.mpr (.inl hi), fun j hj hu => ?_⟩
      rcases getElem?_snoc.mp hu with hu | ⟨-, hu⟩
      · exact hkept j hj hu
      · exact hc hu

theorem BlockedSince.snoc (h : BlockedSince calls user i) (hc : c ≠ .unblock user) :
    BlockedSince (calls ++ [c]) user i where
  call := getElem?_snoc.mpr (.inl h.call)
  kept j hj hu := by
    rcases getElem?_snoc.mp hu with hu | ⟨-, hu⟩
    · exact h.kept j hj hu
    · exact hc hu
  first k hk hb := by
    rcases getElem?_snoc.mp hb with hb | ⟨rfl, -⟩
    · obtain ⟨j, hkj, hji, hu⟩ := h.first k hk hb
      exact ⟨j, hkj, hji, getElem?_snoc.mpr (.inl hu)⟩
    · exact absurd hk (Nat.not_lt_of_gt (lt_length h.call))

/-- Who was not blocked is blocked since the last call. -/
theorem blockedSince_length (h : ¬ LastBlocked calls user) :
    BlockedSince (calls ++ [.block user]) user calls.length where
  call := getElem?_snoc.mpr (.inr ⟨rfl, rfl⟩)
  kept j hj hu := by
    rcases getElem?_snoc.mp hu with hu | ⟨rfl, -⟩
    · exact absurd (lt_length hu) (Nat.not_lt_of_gt hj)
    · exact absurd hj (Nat.lt_irrefl _)
  first k hk hb := by
    rcases getElem?_snoc.mp hb with hb | ⟨rfl, -⟩
    · by_contra hno
      refine h ⟨k, hb, fun j hj hu => hno ⟨j, hj, lt_length hu, ?_⟩⟩
      exact getElem?_snoc.mpr (.inl hu)
    · exact absurd hk (Nat.lt_irrefl _)

end Snoc

theorem exists_blockedSince {calls : List BlockListCall} {user : String}
    (h : LastBlocked calls user) : ∃ i, BlockedSince calls user i := by
  induction calls using List.reverseRecOn with
  | nil =>
    obtain ⟨i, hi, -⟩ := h
    cases hi
  | append_singleton calls c ih =>
    by_cases hlast : LastBlocked calls user
    · obtain ⟨i, hi⟩ := ih hlast
      have hc : c ≠ .unblock user := by
        rcases lastBlocked_snoc.mp h with rfl | ⟨hc, -⟩
        · simp
        · exact hc
      exact ⟨i, hi.snoc hc⟩
    · rcases lastBlocked_snoc.mp h with rfl | ⟨-, h⟩
      · exact ⟨calls.length, blockedSince_length hlast⟩
      · exact absurd h hlast

theorem InOrder.snoc {calls : List BlockListCall} {users : List String} (h : InOrder calls users)
    (c : BlockListCall) : InOrder (calls ++ [c]) (c.apply users) where
  nodup := c.nodup_apply h.nodup
  mem_iff user := by
    rw [BlockListCall.mem_apply_iff, lastBlocked_snoc, h.mem_iff]
  sorted := by
    -- Whoever stays is blocked since the same call as before.
    have hstay : ∀ l : List String, l.Sublist users → (∀ user ∈ l, c ≠ .unblock user) →
        l.Pairwise fun u v =>
          ∃ i j, BlockedSince (calls ++ [c]) u i ∧ BlockedSince (calls ++ [c]) v j ∧ i < j := by
      intro l hl hc
      refine (h.sorted.sublist hl).imp_of_mem ?_
      rintro u v hu hv ⟨i, j, hi, hj, hij⟩
      exact ⟨i, j, hi.snoc (hc u hu), hj.snoc (hc v hv), hij⟩
    cases c with
    | list => exact hstay users (.refl _) (by simp)
    | block user =>
      rw [BlockListCall.apply]
      split_ifs with hmem
      · exact hstay users (.refl _) (by simp)
      · have hnot : ¬ LastBlocked calls user := fun hl => hmem ((h.mem_iff user).mpr hl)
        refine List.pairwise_append.mpr
          ⟨hstay users (.refl _) (by simp), List.pairwise_singleton _ _, fun u hu v hv => ?_⟩
        obtain rfl := List.mem_singleton.mp hv
        obtain ⟨i, hi⟩ := exists_blockedSince ((h.mem_iff u).mp hu)
        exact ⟨i, calls.length, hi.snoc (by simp), blockedSince_length hnot, lt_length hi.call⟩
    | unblock user =>
      refine hstay _ List.filter_sublist fun u hu hc => ?_
      cases hc
      simpa using (List.mem_filter.mp hu).2

/-- **The users after some calls are those who are blocked, in order.** -/
theorem inOrder_usersAfter (calls : List BlockListCall) : InOrder calls (usersAfter calls) := by
  induction calls using List.reverseRecOn with
  | nil =>
    refine ⟨List.nodup_nil, fun user => ?_, List.Pairwise.nil⟩
    constructor
    · exact fun h => absurd h List.not_mem_nil
    · rintro ⟨i, hi, -⟩
      cases hi
  | append_singleton calls c ih =>
    have hfold : usersAfter (calls ++ [c]) = c.apply (usersAfter calls) := by
      unfold usersAfter
      rw [List.foldl_append]
      rfl
    rw [hfold]
    exact ih.snoc c

/-! ### Providers -/

open PairChat.Action

/-- **The provider keeps a block list**: in states that hold a list of users, a call answers by it,
and does to it what it should. -/
def Provider.KeepsBlockList {σ : Type} (p : Provider σ) (Holds : List String → σ → Prop) : Prop :=
  ∀ users s (c : BlockListCall), Holds users s → c.IsWritten →
    ∃ s', (c.run p).outcome s = (.ok (c.answer users), s') ∧ Holds (c.apply users) s'

theorem Provider.KeepsBlockList.log_eq {σ : Type} {p : Provider σ}
    {Holds : List String → σ → Prop} (hp : p.KeepsBlockList Holds) {users : List String} {s : σ}
    (h : Holds users s) (calls : List BlockListCall) (hw : ∀ c ∈ calls, c.IsWritten) :
    log (BlockListCall.run p) s calls = answersFrom users calls ∧
      Holds (calls.foldl BlockListCall.apply users) (after (BlockListCall.run p) s calls) := by
  induction calls generalizing users s with
  | nil => exact ⟨rfl, h⟩
  | cons c calls ih =>
    obtain ⟨s', ho, hs'⟩ := hp users s c h (hw c List.mem_cons_self)
    obtain ⟨hlog, hafter⟩ := ih hs' fun c' hc' => hw c' (List.mem_cons_of_mem c hc')
    simp only [log, after, ho]
    exact ⟨congrArg _ hlog, hafter⟩

/-- The provider reads its block list as a whole, and writes it as a whole. -/
structure Provider.ReadsAndWrites {σ : Type} (p : Provider σ) (read : Action σ BlockList)
    (write : BlockList → Action σ Unit) : Prop where
  blocked : p.blocked = do return (← read).accounts
  block : ∀ user, p.block user = do write ((← read).block user)
  unblock : ∀ user, p.unblock user = do
    let blocked ← read
    if blocked.contains user then write (blocked.unblock user)

namespace Provider.ReadsAndWrites

variable {σ : Type} {p : Provider σ} {read : Action σ BlockList} {write : BlockList → Action σ Unit}
  (hp : p.ReadsAndWrites read write) {users : List String} {user : String} {s t : σ}
include hp

section Read
variable (hr : read.outcome s = (.ok (.ofUsers users), t))
include hr

theorem outcome_blocked : p.blocked.outcome s = (.ok (users.map .text), t) := by
  rw [hp.blocked, ← BlockList.accounts_ofUsers]
  exact outcome_bind_pure _ hr

theorem outcome_block : (p.block user).outcome s =
    (write (.ofUsers ((BlockListCall.block user).apply users))).outcome t := by
  rw [hp.block, outcome_bind_ok hr, BlockList.block_ofUsers]
  rfl

theorem outcome_unblock_of_mem (hu : user ∈ users) : (p.unblock user).outcome s =
    (write (.ofUsers ((BlockListCall.unblock user).apply users))).outcome t := by
  rw [hp.unblock, outcome_bind_ok hr, BlockList.contains_ofUsers, decide_eq_true hu, if_pos rfl,
    BlockList.unblock_ofUsers]
  rfl

/-- Nothing is written to unblock somebody who is not on the list. -/
theorem outcome_unblock_of_not_mem (hu : user ∉ users) : (p.unblock user).outcome s =
    (.ok (), t) := by
  rw [hp.unblock, outcome_bind_ok hr, BlockList.contains_ofUsers, decide_eq_false hu]
  rfl

end Read

/-- **A provider keeps its block list if reading and writing it do.** -/
theorem keepsBlockList {Holds : List String → σ → Prop}
    (hnodup : ∀ users s, Holds users s → users.Nodup)
    (hread : ∀ users s, Holds users s →
      ∃ t, read.outcome s = (.ok (.ofUsers users), t) ∧ Holds users t)
    (hwrite : ∀ users users' s, Holds users s → users'.Nodup →
      (∀ u ∈ users', u ∈ users ∨ Json.unwritten? (.text u) = none) →
        ∃ t, (write (.ofUsers users')).outcome s = (.ok (), t) ∧ Holds users' t) :
    p.KeepsBlockList Holds := by
  intro users s c h hc
  obtain ⟨t, hr, ht⟩ := hread users s h
  have happly : (∀ u ∈ c.apply users, u ∈ users ∨ Json.unwritten? (.text u) = none) →
      ∃ t', (write (.ofUsers (c.apply users))).outcome t = (.ok (), t') ∧
        Holds (c.apply users) t' :=
    hwrite users _ t ht (c.nodup_apply (hnodup users s h))
  cases c with
  | list => exact ⟨t, outcome_bind_pure _ (hp.outcome_blocked hr), ht⟩
  | block user =>
    obtain ⟨t', ho, ht'⟩ := happly fun u hu => by
      rcases BlockListCall.mem_apply_iff.mp hu with he | ⟨-, hu⟩
      · cases he
        exact .inr hc
      · exact .inl hu
    exact ⟨t', outcome_bind_ok ((hp.outcome_block hr).trans ho), ht'⟩
  | unblock user =>
    by_cases hmem : user ∈ users
    · obtain ⟨t', ho, ht'⟩ := happly fun u hu => .inl (List.mem_of_mem_filter hu)
      exact ⟨t', outcome_bind_ok ((hp.outcome_unblock_of_mem hr hmem).trans ho), ht'⟩
    · rw [BlockListCall.apply_unblock_of_not_mem hmem]
      exact ⟨t, outcome_bind_ok (hp.outcome_unblock_of_not_mem hr hmem), ht⟩

end Provider.ReadsAndWrites

end PairChat
