import PairChat.Proofs.Chats

/-!
# Calls: everything that can be done to a store

A `Call` registers an account or lets an account carry out an operation.  A call may fail, and what
it changed before it failed stays changed.

* `Effect` says, in one case for each way a call can end, what it answers and what it leaves.
* `effect_call`: **on sound tables every call ends in one of these ways.**
-/

namespace PairChat.Store

open PairChat.Action Account

/-- A call on a store: an account is registered, or an account (or nobody) carries out an
operation. -/
inductive Call where
  | register (handle : String) (name : Option String)
  | perform (user : Option String) (op : Operation)
deriving DecidableEq, Repr

/-- The reply to a call. -/
inductive Reply where
  | registered (id : String)
  | answered (answer : Answer)
deriving DecidableEq, Repr

namespace Call

/-- A call on a store with a home server. -/
def run (server : String) : Call → Action Store Reply
  | .register handle name => return .registered (← (acting server none).register handle name)
  | .perform user op => return .answered (← op.perform (acting server user).provider)

/-- The reply to a call, or its failure. -/
def reply (server : String) (c : Call) (s : Store) : Except Failure Reply :=
  ((c.run server).outcome s).1

/-- The store that a call leaves. -/
def next (server : String) (c : Call) (s : Store) : Store := ((c.run server).outcome s).2

end Call

/-! ### What a call can do -/

/-- **What a call answers and leaves.** -/
inductive Effect (server : String) (s : Store) : Call → Except Failure Reply → Store → Prop
  /-- The call fails before it writes anything. An instant may have been taken. -/
  | failed {c : Call} {e : Failure} (instants : Nat) :
    Effect server s c (.error e) { s with clock := s.clock + instants }
  /-- The call only reads. -/
  | observed {user : Option String} {op : Operation} {a : Answer}
    (hop : op = .invitations ∨ op = .blocked ∨ ∃ handle, op = .unblock handle) :
    Effect server s (.perform user op) (.ok (.answered a)) s
  | registered {handle : String} {name : Option String} {displayName : String}
    (hh : Handle.fault? handle = none) (hid : Text.isEncodable (UserId.qualify handle server))
    (hne : displayName ≠ "") (hname : Text.isEncodable displayName)
    (hfree : s.live.user? (UserId.qualify handle server) = none) :
    Effect server s (.register handle name) (.ok (.registered (UserId.qualify handle server)))
      (s.wrote (s.live.withUser ⟨some (UserId.qualify handle server), some displayName, s.clock⟩))
  /-- A chat is made. -/
  | made {me handle : String} {u v : UserRow} (hu : s.live.user? me = some u)
    (hv : s.live.user? (UserId.qualify handle server) = some v)
    (hne : me ≠ UserId.qualify handle server)
    (hfree : ¬ s.live.IsHeld me (UserId.qualify handle server)) :
    Effect server s (.perform (some me) (.create handle))
      (.ok (.answered (.chat (.text (roomName server s.nextRoom)))))
      ((s.madeRoom server me (UserId.qualify handle server)).listed me
        (roomName server s.nextRoom))
  /-- An account tries to make a chat with itself. -/
  | begun {me handle : String} {u : UserRow} (hu : s.live.user? me = some u)
    (he : me = UserId.qualify handle server) (hfree : ¬ s.live.IsHeld me me) :
    Effect server s (.perform (some me) (.create handle)) (.error .constraint)
      (s.begunRoom server me)
  | accepted {me chat : String} (ha : s.live.IsActive chat me) :
    Effect server s (.perform (some me) (.accept chat)) (.ok (.answered .done))
      ((s.joinedRoom me chat).listed me chat)
  | declined {me chat : String} (hm : (s.live.member? chat me).isSome) :
    Effect server s (.perform (some me) (.decline chat)) (.ok (.answered .done))
      (s.leftRoom me chat)
  /-- The chats of an account are listed, and it leaves those that are stale. -/
  | swept {me : String} {reply : Except Failure Reply} :
    Effect server s (.perform (some me) .joined) reply (s.leftRooms me (staleIn me s.live))
  /-- The block list of an account is written. -/
  | blockList {me : String} {op : Operation} {blocked : BlockList}
    (hop : (∃ handle, op = .block handle) ∨ ∃ handle, op = .unblock handle)
    (hu : (s.live.user? me).isSome) :
    Effect server s (.perform (some me) op) (.ok (.answered .done))
      (s.wrote (s.live.withDocument ⟨me, blockListType, blocked.toContent⟩))

variable {server : String} {s : Store}

theorem Effect.refused {c : Call} {e : Failure} : Effect server s c (.error e) s :=
  Effect.failed 0

/-! ### Every call ends in one of these ways -/

variable {c : Call} {r : Except Failure Reply} {s' : Store}

/-- The reply to a call and the store that it leaves are one of its effects. -/
def Call.HasEffect (server : String) (s : Store) (c : Call) : Prop :=
  Effect server s c (c.reply server s) (c.next server s)

theorem effect_of_outcome (ho : (c.run server).outcome s = (r, s')) (he : Effect server s c r s') :
    c.HasEffect server s := by
  unfold Call.HasEffect Call.reply Call.next
  rw [ho]
  exact he

section Perform
variable {user : Option String} {answer : Except Failure Answer}

/-- A call of an operation ends as the operation does. -/
theorem outcome_answered (op : Operation)
    (ho : (op.perform (acting server user).provider).outcome s = (answer, s')) :
    ((Call.perform user op).run server).outcome s = (answer.map .answered, s') :=
  outcome_bind_pure Reply.answered ho

/-- The reply to an operation is its answer. -/
theorem reply_perform (op : Operation)
    (ho : (op.perform (acting server user).provider).outcome s = (answer, s')) :
    (Call.perform user op).reply server s = answer.map .answered :=
  congrArg Prod.fst (outcome_answered op ho)

theorem next_perform (op : Operation)
    (ho : (op.perform (acting server user).provider).outcome s = (answer, s')) :
    (Call.perform user op).next server s = s' :=
  congrArg Prod.snd (outcome_answered op ho)

/-- The effect of an operation is seen from its outcome. -/
theorem effect_perform {op : Operation}
    (ho : (op.perform (acting server user).provider).outcome s = (answer, s'))
    (he : Effect server s (.perform user op) (answer.map .answered) s') :
    (Call.perform user op).HasEffect server s :=
  effect_of_outcome (outcome_answered op ho) he

end Perform

theorem effect_register (handle : String) (name : Option String) :
    (Call.register handle name).HasEffect server s := by
  rcases hh : Handle.fault? handle with _ | fault
  · by_cases hid : Text.isEncodable (UserId.qualify handle server)
    · rcases hu : s.live.user? (UserId.qualify handle server) with _ | u
      · by_cases hname : Text.isEncodable (shownName handle name)
        · have ho := outcome_register none name hh hid hu hname
          refine effect_of_outcome (outcome_bind_pure _ ho) ?_
          exact .registered hh hid (shownName_ne_empty (Handle.ne_empty hh) name) hname hu
        · rw [Bool.not_eq_true] at hname
          exact effect_of_outcome
            (outcome_bind_pure _ (outcome_register_unnamed none name hh hid hu hname)) (.failed 1)
      · have hs : (s.live.user? (UserId.qualify handle server)).isSome := by rw [hu]; rfl
        exact effect_of_outcome (outcome_bind_pure _ (outcome_register_taken none name hh hid hs))
          .refused
    · rw [Bool.not_eq_true] at hid
      exact effect_of_outcome (outcome_bind_pure _ (outcome_register_unencodable none name hh hid))
        .refused
  · exact effect_of_outcome (outcome_bind_pure _ (outcome_register_fault none name hh)) .refused

/-! ### Calls without a session -/

/-- The handle that an operation is about, with what it is wanted for. -/
def subject? : Operation → Option (String × Purpose)
  | .create handle => some (handle, .chat)
  | .block handle => some (handle, .block)
  | .unblock handle => some (handle, .unblock)
  | .accept _ | .decline _ | .invitations | .joined | .blocked => none

/-- The texts that an operation binds before the name of the account. -/
def firstTexts : Operation → List String
  | .accept chat | .decline chat => [chat]
  | .create _ | .invitations | .joined | .block _ | .unblock _ | .blocked => []

/-- The session of an operation fails, or somebody acts and its first texts can be encoded. -/
theorem session_cases (user : Option String) (op : Operation) :
    (∃ e, sessionIn user (firstTexts op) = .error e) ∨
      ∃ me, user = some me ∧ IsName me ∧ ∀ text ∈ firstTexts op, Text.isEncodable text := by
  rcases hs : sessionIn user (firstTexts op) with e | me
  · exact Or.inl ⟨e, rfl⟩
  · obtain ⟨hwho, hme, hb⟩ := sessionIn_eq_ok_iff.mp hs
    exact Or.inr ⟨me, hwho, hme, bound_eq_ok_iff.mp hb⟩

/-- An operation on a handle without an account fails for whoever asks for it. -/
theorem outcome_subject_error {user : Option String} {op : Operation} {handle : String}
    {purpose : Purpose} {e : Failure} (hop : subject? op = some (handle, purpose))
    (hc : counterpartyIn server handle purpose s.live = .error e) :
    (op.perform (acting server user).provider).outcome s = (.error e, s) := by
  have ho : (Lifecycle.counterparty (acting server user).provider handle purpose).outcome s =
      (.error e, s) := (outcome_counterparty user handle purpose).trans (by rw [hc])
  cases op <;> cases hop
  · exact outcome_bind_error (outcome_create_error hc)
  · exact outcome_bind_error (outcome_bind_error ho)
  · exact outcome_bind_error (outcome_bind_error ho)

/-- The failure of an operation whose session fails, where its handle has an account. -/
def refusal (user : Option String) (e : Failure) : Operation → Failure
  | .create _ | .accept _ | .invitations | .joined => ownedFailure user e
  | .decline _ | .block _ | .unblock _ | .blocked => e

theorem refusal_some {me : String} (hme : me ≠ "") (e : Failure) (op : Operation) :
    refusal (some me) e op = e := by
  have hwho : ¬ (some me = none ∨ some me = some "") := by simpa using hme
  cases op <;> simp only [refusal, ownedFailure, if_neg hwho]

/-- The failure of an operation whose session fails. -/
def refusalIn (server : String) (user : Option String) (e : Failure) (op : Operation)
    (t : Tables) : Failure :=
  match subject? op with
  | none => refusal user e op
  | some (handle, purpose) =>
    match counterpartyIn server handle purpose t with
    | .error e => e
    | .ok _ => refusal user e op

/-- **Without a session, every operation fails**, and it changes nothing. -/
theorem outcome_refused {user : Option String} {e : Failure} (op : Operation)
    (hs : sessionIn user (firstTexts op) = .error e) :
    (op.perform (acting server user).provider).outcome s =
      (.error (refusalIn server user e op s.live), s) := by
  have hsession : ((acting server user).session (firstTexts op)).outcome s = (.error e, s) :=
    (outcome_session_eq user (firstTexts op)).trans (by rw [hs])
  -- where an owner is asked for, only nobody fails before the session does
  cases op with
  | create handle =>
    rcases hc : counterpartyIn server handle .chat s.live with e' | id <;>
      simp only [refusalIn, subject?, hc]
    · exact outcome_subject_error rfl hc
    · refine outcome_bind_error ((outcome_bind_ok ((outcome_counterparty user handle .chat).trans
        (by rw [hc]))).trans (outcome_owner_bind_error fun _ _ hme => ?_))
      exact outcome_bind_error (outcome_hasChat_refused hs (knownOwner_text hme) (by simp) id)
  | accept chat =>
    refine outcome_bind_error (outcome_owner_bind_error fun _ _ _ => ?_)
    exact outcome_bind_error (outcome_bind_error (outcome_bind_error hsession))
  | decline chat =>
    exact outcome_bind_error (outcome_bind_error (outcome_bind_error (outcome_bind_error hsession)))
  | invitations =>
    refine outcome_bind_error (outcome_owner_bind_error fun _ _ hme => ?_)
    exact outcome_bind_error (outcome_resolve_refused hs (knownOwner_text hme) .invited)
  | joined =>
    refine outcome_bind_error (outcome_owner_bind_error fun _ _ hme => ?_)
    exact outcome_bind_error (outcome_resolve_refused hs (knownOwner_text hme) .joined)
  | block handle =>
    rcases hc : counterpartyIn server handle .block s.live with e' | id <;>
      simp only [refusalIn, subject?, hc]
    · exact outcome_subject_error rfl hc
    · have hid : (Lifecycle.counterparty (acting server user).provider handle .block).outcome s =
          (.ok id, s) := (outcome_counterparty user handle .block).trans (by rw [hc])
      exact outcome_bind_error ((outcome_bind_ok hid).trans
        (outcome_bind_error (outcome_bind_error hsession)))
  | unblock handle =>
    rcases hc : counterpartyIn server handle .unblock s.live with e' | id <;>
      simp only [refusalIn, subject?, hc]
    · exact outcome_subject_error rfl hc
    · have hid : (Lifecycle.counterparty (acting server user).provider handle .unblock).outcome s =
          (.ok id, s) := (outcome_counterparty user handle .unblock).trans (by rw [hc])
      exact outcome_bind_error ((outcome_bind_ok hid).trans
        (outcome_bind_error (outcome_bind_error hsession)))
  | blocked => exact outcome_bind_error (outcome_bind_error (outcome_bind_error hsession))

/-- The handle of the operation has no account, or the session fails. -/
theorem refusalIn_cases (server : String) (user : Option String) (e : Failure) (op : Operation)
    (t : Tables) :
    (refusalIn server user e op t = refusal user e op ∧ ∀ handle purpose,
      subject? op = some (handle, purpose) →
        ∃ id, counterpartyIn server handle purpose t = .ok id) ∨
    ∃ handle purpose, subject? op = some (handle, purpose) ∧
      counterpartyIn server handle purpose t = .error (refusalIn server user e op t) := by
  unfold refusalIn
  rcases hop : subject? op with _ | ⟨handle, purpose⟩
  · exact Or.inl ⟨rfl, fun _ _ h => by cases h⟩
  · rcases hc : counterpartyIn server handle purpose t with e' | id
    · exact Or.inr ⟨handle, purpose, rfl, by simp only [hc]⟩
    · refine Or.inl ⟨by simp only [hc], fun handle' purpose' h => ?_⟩
      cases h
      exact ⟨id, hc⟩

/-- Without a session, nothing is done. -/
theorem effect_refused {user : Option String} {e : Failure} (op : Operation)
    (hs : sessionIn user (firstTexts op) = .error e) :
    (Call.perform user op).HasEffect server s :=
  effect_perform (outcome_refused op hs) .refused

section Acting
variable {me : String} (hme : IsName me) (h : s.live.Sound server s.clock s.nextRoom)
include hme h

theorem effect_create (handle : String) :
    (Call.perform (some me) (.create handle)).HasEffect server s := by
  rcases hc : counterpartyIn server handle .chat s.live with e | user
  · exact effect_perform (outcome_bind_pure _ (outcome_create_error hc)) .refused
  · obtain ⟨-, -, huser, rfl⟩ := counterpartyIn_eq_ok_iff.mp hc
    by_cases hheld : s.live.IsHeld me (UserId.qualify handle server)
    · exact effect_perform (outcome_bind_pure _ (outcome_create_held hme h hc hheld)) .refused
    · rcases hu : s.live.user? me with _ | u
      · have ho := outcome_create_unregistered hme h hc hu
        exact effect_perform (outcome_bind_pure _ ho) .refused
      · by_cases he : me = UserId.qualify handle server
        · have ho := outcome_create_begun hme h hc hheld hu he
          rw [← he] at hheld
          exact effect_perform (outcome_bind_pure _ ho) (.begun hu he hheld)
        · obtain ⟨v, hv⟩ := Option.isSome_iff_exists.mp huser
          have ho := outcome_create_made hme h hc hheld hu hv he
          exact effect_perform (outcome_bind_pure _ ho) (.made hu hv he hheld)

theorem effect_accept {chat : String} (hchat : Text.isEncodable chat) :
    (Call.perform (some me) (.accept chat)).HasEffect server s := by
  rcases hm : s.live.member? chat me with _ | m
  · exact effect_perform (outcome_bind_pure _ (outcome_accept_none hme hchat hm)) .refused
  · rcases h.toCoherent.isActive_or_left (by rw [hm]; rfl) with ha | hw
    · exact effect_perform (outcome_bind_pure _ (outcome_accept hme h ha)) (.accepted ha)
    · exact effect_perform (outcome_bind_pure _ (outcome_accept_left hme h.valid hw)) .refused

theorem effect_decline {chat : String} (hchat : Text.isEncodable chat) :
    (Call.perform (some me) (.decline chat)).HasEffect server s := by
  rcases hm : s.live.member? chat me with _ | m
  · exact effect_perform (outcome_bind_pure _ (outcome_decline_none hme hchat hm)) .refused
  · have hs : (s.live.member? chat me).isSome := by rw [hm]; rfl
    obtain ⟨w, hw⟩ := h.toCoherent.exists_stands hs
    exact effect_perform (outcome_bind_pure _ (outcome_decline hme h.valid hw)) (.declined hs)

theorem effect_invitations : (Call.perform (some me) .invitations).HasEffect server s := by
  refine effect_perform (outcome_bind_pure _ (outcome_invitations hme h)) ?_
  rcases List.mapM _ _ with e | all
  · exact .refused
  · exact .observed (Or.inl rfl)

theorem effect_joined : (Call.perform (some me) .joined).HasEffect server s :=
  effect_perform (outcome_bind_pure _ (outcome_joined hme h)) .swept

omit h

section Written
variable {op : Operation} {blocked : BlockList}
  (ho : (op.perform (acting server (some me)).provider).outcome s =
    ((acting server (some me)).setBlockList blocked >>= fun _ => pure Answer.done).outcome s)
include ho

theorem outcome_written (hu : (s.live.user? me).isSome) :
    (op.perform (acting server (some me)).provider).outcome s =
      (.ok .done, s.wrote (s.live.withDocument ⟨me, blockListType, blocked.toContent⟩)) :=
  ho.trans (outcome_bind_pure _ (outcome_setBlockList hme blocked hu))

theorem outcome_unwritten (hu : s.live.user? me = none) :
    (op.perform (acting server (some me)).provider).outcome s =
      (.error .constraint, { s with clock := s.clock + 1 }) :=
  ho.trans (outcome_bind_error (outcome_setBlockList_unknown hme blocked hu))

/-- The block list is written only for an account that is registered. -/
theorem effect_setBlockList
    (hop : (∃ handle, op = .block handle) ∨ ∃ handle, op = .unblock handle) :
    (Call.perform (some me) op).HasEffect server s := by
  rcases hu : s.live.user? me with _ | u
  · exact effect_perform (outcome_unwritten hme ho hu) (.failed 1)
  · have hs : (s.live.user? me).isSome := by rw [hu]; rfl
    exact effect_perform (outcome_written hme ho hs) (.blockList hop hs)

end Written

/-- Blocking a handle writes the longer list, if the list can be read. -/
theorem outcome_block {handle id : String}
    (hid : counterpartyIn server handle .block s.live = .ok id) :
    ((Operation.block handle).perform (acting server (some me)).provider).outcome s =
      match blockListIn me s.live with
      | .ok blocked => ((acting server (some me)).setBlockList (blocked.block id) >>=
          fun _ => pure Answer.done).outcome s
      | .error e => (.error e, s) := by
  have hc : (Lifecycle.counterparty (acting server (some me)).provider handle .block).outcome s =
    (.ok id, s) := (outcome_counterparty (some me) handle .block).trans (by rw [hid])
  have hl : (acting server (some me)).blockList.outcome s = _ := outcome_blockList hme
  rcases hb : blockListIn me s.live with e | blocked <;> rw [hb] at hl
  · have he : ((acting server (some me)).provider.block id).outcome s = (.error e, s) :=
      outcome_bind_error hl
    exact outcome_bind_error ((outcome_bind_ok hc).trans he)
  · have he : ((acting server (some me)).provider.block id).outcome s =
        ((acting server (some me)).setBlockList (blocked.block id)).outcome s := outcome_bind_ok hl
    simp only [Operation.perform, Lifecycle.block, outcome_bind, hc, he]

/-- Unblocking a handle writes the shorter list, if the handle is on it. -/
theorem outcome_unblock {handle id : String}
    (hid : counterpartyIn server handle .unblock s.live = .ok id) :
    ((Operation.unblock handle).perform (acting server (some me)).provider).outcome s =
      match blockListIn me s.live with
      | .ok blocked => if blocked.contains id then
          ((acting server (some me)).setBlockList (blocked.unblock id) >>=
            fun _ => pure Answer.done).outcome s
        else (.ok .done, s)
      | .error e => (.error e, s) := by
  have hc : (Lifecycle.counterparty (acting server (some me)).provider handle .unblock).outcome s =
    (.ok id, s) := (outcome_counterparty (some me) handle .unblock).trans (by rw [hid])
  have hl : (acting server (some me)).blockList.outcome s = _ := outcome_blockList hme
  rcases hb : blockListIn me s.live with e | blocked <;> rw [hb] at hl
  · have he : ((acting server (some me)).provider.unblock id).outcome s = (.error e, s) :=
      outcome_bind_error hl
    exact outcome_bind_error ((outcome_bind_ok hc).trans he)
  · have he : ((acting server (some me)).provider.unblock id).outcome s =
        (if blocked.contains id then (acting server (some me)).setBlockList (blocked.unblock id)
        else pure ()).outcome s := outcome_bind_ok hl
    dsimp only
    split_ifs at he ⊢ <;>
      simp only [Operation.perform, Lifecycle.unblock, outcome_bind, hc, he, outcome_pure]

theorem effect_block (handle : String) :
    (Call.perform (some me) (.block handle)).HasEffect server s := by
  rcases hid : counterpartyIn server handle .block s.live with e | id
  · exact effect_perform (outcome_subject_error rfl hid) .refused
  · have ho := outcome_block hme hid
    rcases hb : blockListIn me s.live with e | blocked <;> rw [hb] at ho
    · exact effect_perform ho .refused
    · exact effect_setBlockList hme ho (Or.inl ⟨handle, rfl⟩)

theorem effect_unblock (handle : String) :
    (Call.perform (some me) (.unblock handle)).HasEffect server s := by
  rcases hid : counterpartyIn server handle .unblock s.live with e | id
  · exact effect_perform (outcome_subject_error rfl hid) .refused
  · have ho := outcome_unblock hme hid
    rcases hb : blockListIn me s.live with e | blocked <;> rw [hb] at ho
    · exact effect_perform ho .refused
    · dsimp only at ho
      split_ifs at ho
      · exact effect_setBlockList hme ho (Or.inr ⟨handle, rfl⟩)
      · exact effect_perform ho (.observed (Or.inr (Or.inr ⟨handle, rfl⟩)))

theorem effect_blocked : (Call.perform (some me) .blocked).HasEffect server s := by
  have hb : (acting server (some me)).blockList.outcome s = _ := outcome_blockList hme
  have hl := outcome_bind_pure BlockList.accounts hb
  refine effect_perform (outcome_bind_pure _ hl) ?_
  rcases blockListIn me s.live with e | blocked
  · exact .refused
  · exact .observed (Or.inr (Or.inl rfl))

end Acting

/-- **On sound tables every call has one of the effects.** -/
theorem effect_call (h : s.live.Sound server s.clock s.nextRoom) (c : Call) :
    Effect server s c (c.reply server s) (c.next server s) := by
  rcases c with ⟨handle, name⟩ | ⟨user, op⟩
  · exact effect_register handle name
  · rcases session_cases user op with ⟨e, hs⟩ | ⟨me, rfl, hme, hchat⟩
    · exact effect_refused op hs
    · cases op with
      | create handle => exact effect_create hme h handle
      | accept chat => exact effect_accept hme h (hchat chat List.mem_cons_self)
      | decline chat => exact effect_decline hme h (hchat chat List.mem_cons_self)
      | invitations => exact effect_invitations hme h
      | joined => exact effect_joined hme h
      | block handle => exact effect_block hme handle
      | unblock handle => exact effect_unblock hme handle
      | blocked => exact effect_blocked hme

end PairChat.Store
