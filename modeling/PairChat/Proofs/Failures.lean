import PairChat.Proofs.Creation
import PairChat.Proofs.JoinedChats

/-!
# Failures: what a call leaves when it fails

A call is clean if it has a reply, or if it fails with a failure that callers tell apart and leaves
the tables as they are (`Call.IsClean`).  Not every call is: nothing is rolled back, and not every
constraint of the tables is checked before it is hit.

* `Tables.HasBlockLists`: every block list can be read, so reading one never fails.
* `Fault`: the calls that are not clean, each with its condition, its failure and what it leaves.
  The condition is enough for it (`Call.HasFault.isFaulty`), and every call without one is clean
  (`ends_call`).
* `clean_history`: **after every history a call is clean, unless it meets the condition of a
  fault.**
-/

namespace PairChat.Store

open PairChat.Action Account

/-! ### Block lists -/

/-- Every block list was written as one. -/
def Tables.HasBlockLists (t : Tables) : Prop :=
  ∀ user d, t.document? user blockListType = some d →
    ∃ blocked : BlockList, d.content = blocked.toContent

variable {server me : String} {s s' : Store} {t : Tables} {c : Call} {r : Except Failure Reply}

theorem ofContent_blockList (blocked : BlockList) :
    ∃ blocked', BlockList.ofContent blocked.toContent = .ok blocked' := ⟨_, rfl⟩

/-- **A block list that was written can be read.** -/
theorem Tables.HasBlockLists.exists_blockList (h : t.HasBlockLists) (user : String) :
    ∃ blocked, blockListIn user t = .ok blocked := by
  rw [blockListIn, Tables.document_eq]
  rcases hd : t.document? user blockListType with _ | d
  · exact ⟨[], rfl⟩
  · obtain ⟨blocked, hc⟩ := h user d hd
    have hr : readable d.content = .ok blocked.toContent := by
      rw [hc]
      rfl
    simp only [hr]
    exact ofContent_blockList blocked

theorem document?_withListed_of_ne {user room v type : String} (h : type ≠ registryType) :
    (t.withListed user room).document? v type = t.document? v type := by
  unfold Tables.withListed
  split_ifs
  · rfl
  · rw [Tables.document?_withDocument, if_neg]
    exact fun e => h (Prod.mk.inj e).2

/-- An account that is not registered has an empty block list. -/
theorem blockListIn_of_user?_eq_none (hv : t.Valid) {user : String} (hu : t.user? user = none) :
    blockListIn user t = .ok [] := by
  rw [blockListIn, Tables.document_eq]
  rcases hd : t.document? user blockListType with _ | d
  · rfl
  · obtain ⟨hmem, hkey⟩ := hv.document?_eq_some_iff.mp hd
    obtain ⟨u, hu', hid⟩ := List.mem_filterMap.mp (hv.document_user_mem d hmem)
    have hs : (t.user? user).isSome := by
      rw [← (Prod.mk.inj hkey).1]
      exact Tables.user?_isSome_iff.mpr ⟨u, hu', hid⟩
    rw [hu] at hs
    cases hs

/-- A call leaves a block list as it is, or writes it. -/
theorem Effect.document?_blockList (he : Effect server s c r s') (user : String) :
    s'.live.document? user blockListType = s.live.document? user blockListType ∨
      ∃ blocked : BlockList, s'.live.document? user blockListType =
        some ⟨user, blockListType, blocked.toContent⟩ := by
  have htype : blockListType ≠ registryType := by decide
  cases he with
  | failed instants => exact Or.inl rfl
  | observed hop => exact Or.inl rfl
  | registered hh hid hne hname hfree => exact Or.inl rfl
  | made hu hv hne hfree =>
    rw [live_listed, document?_withListed_of_ne htype]
    exact Or.inl rfl
  | begun hu he hfree => exact Or.inl rfl
  | accepted ha =>
    rw [live_listed, document?_withListed_of_ne htype]
    exact Or.inl rfl
  | declined hm => exact Or.inl rfl
  | swept =>
    rw [live_leftRooms]
    exact Or.inl rfl
  | @blockList me op blocked hop hu =>
    rw [live_wrote, Tables.document?_withDocument]
    split_ifs with hk
    · obtain ⟨rfl, -⟩ := Prod.mk.inj hk
      exact Or.inr ⟨blocked, rfl⟩
    · exact Or.inl rfl

theorem hasBlockLists_after (h : s.Sound server) (hb : s.live.HasBlockLists) (calls : List Call) :
    (s.after server calls).live.HasBlockLists := by
  induction calls generalizing s with
  | nil => exact hb
  | cons c calls ih =>
    refine ih (h.next c) fun user d hd => ?_
    rcases (effect_call h.live c).document?_blockList user with he | ⟨blocked, he⟩
    · exact hb user d (he.symm.trans hd)
    · obtain rfl := Option.some.inj (he.symm.trans hd)
      exact ⟨blocked, rfl⟩

/-! ### Clean ends and faults -/

/-- The call has a reply, or it fails with a failure that callers tell apart and leaves the tables
as they are. -/
def Call.IsClean (server : String) (s : Store) (c : Call) : Prop :=
  (∃ reply, c.reply server s = .ok reply) ∨
    ∃ e, c.reply server s = .error e ∧ e.isChatFailure ∧
      (c.next server s).live = s.live ∧ (c.next server s).saved = s.saved

/-- **The calls that do not end well**, with their failures and with the store that they leave. -/
inductive Fault (server : String) (s : Store) : Call → Failure → Store → Prop
  /-- The identifier of a handle on the home server cannot be encoded. -/
  | unencodableHandle {user : Option String} {op : Operation} {handle : String} {purpose : Purpose}
    (hop : subject? op = some (handle, purpose)) (hh : Handle.fault? handle = none)
    (hid : Text.isEncodable (UserId.qualify handle server) = false) :
    Fault server s (.perform user op) (.unencodable (UserId.qualify handle server)) s
  /-- The name of a chat or of the account that acts cannot be encoded. Where the operation is about
  a handle, that has an account. -/
  | unencodableName {me text : String} {op : Operation} (hne : me ≠ "")
    (hb : bound (firstTexts op ++ [me]) = .error (.unencodable text))
    (hop : ∀ handle purpose, subject? op = some (handle, purpose) →
      (s.live.user? (UserId.qualify handle server)).isSome) :
    Fault server s (.perform (some me) op) (.unencodable text) s
  /-- An account makes a chat with itself: the room is made, and its second record is refused. -/
  | ownRoom {me handle : String} (hu : (s.live.user? me).isSome)
    (he : me = UserId.qualify handle server) (hfree : ¬ s.live.IsHeld me me) :
    Fault server s (.perform (some me) (.create handle)) .constraint (s.begunRoom server me)
  /-- Somebody who is not registered blocks an account: the block list has no owner. -/
  | stranger {me handle : String} (hme : IsName me) (hu : s.live.user? me = none)
    (hv : (s.live.user? (UserId.qualify handle server)).isSome) :
    Fault server s (.perform (some me) (.block handle)) .constraint { s with clock := s.clock + 1 }
  /-- An account that is alone in a listed room lists its chats: it leaves the abandoned rooms, and
  there is no list. -/
  | swept {me room room' : String} {s' : Store} (ha : s.live.IsAlone room me)
    (hb : s.live.IsAbandoned room' me) (hs : Sweeps me s s') :
    Fault server s (.perform (some me) .joined) .alone s'

/-- The call meets the condition of a fault. -/
def Call.HasFault (server : String) (s : Store) (c : Call) : Prop := ∃ e s', Fault server s c e s'

/-- The call fails as a fault says. -/
def Call.IsFaulty (server : String) (s : Store) (c : Call) : Prop :=
  ∃ e, c.reply server s = .error e ∧ Fault server s c e (c.next server s)

theorem clean_of_ok {reply : Reply} (ho : (c.run server).outcome s = (.ok reply, s')) :
    c.IsClean server s :=
  Or.inl ⟨reply, congrArg Prod.fst ho⟩

theorem clean_of_error {e : Failure} (ho : (c.run server).outcome s = (.error e, s'))
    (he : e.isChatFailure) (hlive : s'.live = s.live) (hsaved : s'.saved = s.saved) :
    c.IsClean server s := by
  have hn : c.next server s = s' := congrArg Prod.snd ho
  exact Or.inr ⟨e, congrArg Prod.fst ho, he, hn ▸ hlive, hn ▸ hsaved⟩

theorem faulty_of_error {e : Failure} (ho : (c.run server).outcome s = (.error e, s'))
    (hf : Fault server s c e s') : c.IsFaulty server s := by
  have hn : c.next server s = s' := congrArg Prod.snd ho
  exact ⟨e, congrArg Prod.fst ho, by rwa [hn]⟩

/-- **A fault is not clean**: callers cannot tell its failure apart, or the tables change. -/
theorem Call.IsFaulty.not_isClean (h : c.IsFaulty server s) : ¬ c.IsClean server s := by
  obtain ⟨e, hr, hf⟩ := h
  rintro (⟨reply, hok⟩ | ⟨e', he', hchat, hlive, -⟩)
  · cases hr.symm.trans hok
  · obtain rfl := Except.error.inj (hr.symm.trans he')
    generalize c.next server s = s' at hf hlive
    cases hf with
    | unencodableHandle | unencodableName | ownRoom | stranger => cases hchat
    | swept ha hb hs =>
      -- the record in the abandoned room had joined, and now it has left
      obtain ⟨m, hm, hw⟩ := hb.1
      obtain ⟨time, htime⟩ := hs.left _ m hb hm
      rw [hlive, hm] at htime
      have hleft : m.membership = Membership.left.wire :=
        congrArg MemberRow.membership (Option.some.inj htime)
      cases Membership.wire_injective (hw.symm.trans hleft)

/-! ### The conditions of the faults -/

/-- Every condition of a fault leads to it. -/
theorem Call.HasFault.isFaulty (h : s.Sound server) (hb : s.live.HasBlockLists)
    (hc : c.HasFault server s) : c.IsFaulty server s := by
  obtain ⟨e, s', hf⟩ := hc
  cases hf with
  | @unencodableHandle user op handle purpose hop hh hid =>
    have hcp : counterpartyIn server handle purpose s.live =
        .error (.unencodable (UserId.qualify handle server)) := by
      unfold counterpartyIn
      rw [hh, hid]
      rfl
    exact faulty_of_error (outcome_answered op (outcome_subject_error hop hcp))
      (.unencodableHandle hop hh hid)
  | @unencodableName me text op hne hb hop =>
    have hs : sessionIn (some me) (firstTexts op) = .error (.unencodable text) := by
      simp only [sessionIn, if_neg hne, hb]
      rfl
    have href : refusalIn server (some me) (.unencodable text) op s.live = .unencodable text := by
      rcases refusalIn_cases server (some me) (.unencodable text) op s.live with
        ⟨he, -⟩ | ⟨handle, purpose, hsub, hc⟩
      · rw [he, refusal_some hne]
      · rw [counterpartyIn_of_user? h.live.toCoherent purpose (hop handle purpose hsub)] at hc
        cases hc
    have ho : (op.perform (acting server (some me)).provider).outcome s = _ := outcome_refused op hs
    rw [href] at ho
    exact faulty_of_error (outcome_answered op ho) (.unencodableName hne hb hop)
  | @ownRoom me handle hu he hfree =>
    obtain ⟨u, hrow⟩ := Option.isSome_iff_exists.mp hu
    have hcp := counterpartyIn_of_user? h.live.toCoherent .chat (he ▸ hu)
    have ho := outcome_create_begun (h.live.toCoherent.isName hu) h.live hcp (he ▸ hfree) hrow he
    exact faulty_of_error (outcome_answered (.create handle) (outcome_bind_pure _ ho))
      (.ownRoom hu he hfree)
  | @stranger me handle hme hu hv =>
    have hcp := counterpartyIn_of_user? h.live.toCoherent .block hv
    obtain ⟨blocked, hbl⟩ := hb.exists_blockList me
    have ho := outcome_block hme hcp
    rw [hbl] at ho
    have ho := outcome_unwritten hme ho hu
    exact faulty_of_error (outcome_answered (.block handle) ho) (.stranger hme hu hv)
  | @swept me room room' _ ha hab hs =>
    have hme := h.live.toCoherent.isName (h.live.valid.user?_isSome_of_member? ha.2.1.isSome)
    have ho := joined_alone hme h ⟨room, ha⟩
    exact faulty_of_error (outcome_answered .joined (outcome_bind_pure _ ho))
      (.swept ha hab (sweeps_leftRooms h.live))

/-! ### Every other call is clean -/

/-- The condition of a fault is met, or the call is clean. -/
def Call.Ends (server : String) (s : Store) (c : Call) : Prop :=
  c.HasFault server s ∨ c.IsClean server s

/-- A handle without an account is a clean failure, unless its identifier cannot be encoded. -/
theorem counterpartyIn_eq_error {handle : String} {purpose : Purpose} {e : Failure}
    (hc : counterpartyIn server handle purpose t = .error e) : e.isChatFailure ∨
      Handle.fault? handle = none ∧ Text.isEncodable (UserId.qualify handle server) = false := by
  unfold counterpartyIn at hc
  rcases hh : Handle.fault? handle with _ | fault <;> rw [hh] at hc
  · dsimp only at hc
    split_ifs at hc with hid hu
    · cases hc
      exact Or.inl rfl
    · exact Or.inr ⟨rfl, by simpa using hid⟩
  · cases hc
    exact Or.inl rfl

/-- The failure of a session: nobody acts, or a text cannot be encoded. -/
theorem sessionIn_eq_error {user : Option String} {texts : List String} {e : Failure}
    (hs : sessionIn user texts = .error e) :
    (user = none ∨ user = some "") ∧ e = noAccountSelected ∨ ∃ me text, user = some me ∧ me ≠ "" ∧
      bound (texts ++ [me]) = .error (.unencodable text) ∧ e = .unencodable text := by
  rcases user with _ | me
  · cases hs
    exact Or.inl ⟨Or.inl rfl, rfl⟩
  · unfold sessionIn at hs
    dsimp only at hs
    split_ifs at hs with hme
    · cases hs
      exact Or.inl ⟨Or.inr (congrArg some hme), rfl⟩
    · rcases hb : bound (texts ++ [me]) with e' | _ <;> rw [hb] at hs
      · cases hs
        obtain ⟨text, rfl⟩ := exists_of_bound_eq_error hb
        exact Or.inr ⟨me, text, rfl, hme, hb, rfl⟩
      · cases hs

theorem isChatFailure_refusal {user : Option String} (hwho : user = none ∨ user = some "")
    (op : Operation) : (refusal user noAccountSelected op).isChatFailure := by
  cases op <;> simp only [refusal, ownedFailure, if_pos hwho] <;> rfl

section Perform
variable {user : Option String} {op : Operation}

theorem ends_of_ok (op : Operation) {answer : Answer}
    (ho : (op.perform (acting server user).provider).outcome s = (.ok answer, s')) :
    (Call.perform user op).Ends server s :=
  Or.inr (clean_of_ok (outcome_answered op ho))

theorem ends_of_error (op : Operation) {e : Failure}
    (ho : (op.perform (acting server user).provider).outcome s = (.error e, s))
    (he : e.isChatFailure) : (Call.perform user op).Ends server s :=
  Or.inr (clean_of_error (outcome_answered op ho) he rfl rfl)

theorem ends_subject_error {handle : String} {purpose : Purpose} {e : Failure}
    (hop : Store.subject? op = some (handle, purpose))
    (hc : counterpartyIn server handle purpose s.live = .error e) :
    (Call.perform user op).Ends server s := by
  rcases counterpartyIn_eq_error hc with he | ⟨hh, hid⟩
  · exact ends_of_error op (outcome_subject_error hop hc) he
  · exact Or.inl ⟨_, _, .unencodableHandle hop hh hid⟩

/-- Nobody is refused cleanly. -/
theorem ends_refused {e : Failure} (hs : sessionIn user (firstTexts op) = .error e) :
    (Call.perform user op).Ends server s := by
  rcases refusalIn_cases server user e op s.live with ⟨he, hop⟩ | ⟨handle, purpose, hop, hc⟩
  · have ho : (op.perform (acting server user).provider).outcome s = _ := outcome_refused op hs
    rw [he] at ho
    rcases sessionIn_eq_error hs with ⟨hwho, rfl⟩ | ⟨me, text, rfl, hne, hb, rfl⟩
    · exact ends_of_error op ho (isChatFailure_refusal hwho op)
    · refine Or.inl ⟨_, _, .unencodableName hne hb fun handle purpose hsub => ?_⟩
      obtain ⟨id, hc⟩ := hop handle purpose hsub
      obtain ⟨-, -, hu, rfl⟩ := counterpartyIn_eq_ok_iff.mp hc
      exact hu
  · exact ends_subject_error hop hc

end Perform

theorem ends_register (handle : String) (name : Option String) :
    (Call.register handle name).Ends server s := by
  rcases hh : Handle.fault? handle with _ | fault
  · by_cases hid : Text.isEncodable (UserId.qualify handle server)
    · rcases hu : s.live.user? (UserId.qualify handle server) with _ | u
      · by_cases hname : Text.isEncodable (shownName handle name)
        · have ho := outcome_register none name hh hid hu hname
          exact Or.inr (clean_of_ok (outcome_bind_pure _ ho))
        · rw [Bool.not_eq_true] at hname
          have ho := outcome_register_unnamed none name hh hid hu hname
          exact Or.inr (clean_of_error (outcome_bind_pure _ ho) rfl rfl rfl)
      · have ho := outcome_register_taken none name hh hid (by rw [hu]; rfl)
        exact Or.inr (clean_of_error (outcome_bind_pure _ ho) rfl rfl rfl)
    · rw [Bool.not_eq_true] at hid
      have ho := outcome_register_unencodable (s := s) none name hh hid
      exact Or.inr (clean_of_error (outcome_bind_pure _ ho) rfl rfl rfl)
  · exact Or.inr (clean_of_error (outcome_bind_pure _ (outcome_register_fault none name hh))
      rfl rfl rfl)

section Acting
variable (hme : IsName me) (h : s.Sound server)
include hme h

theorem ends_create (handle : String) :
    (Call.perform (some me) (.create handle)).Ends server s := by
  rcases hc : counterpartyIn server handle .chat s.live with e | user
  · exact ends_subject_error rfl hc
  · obtain ⟨-, -, huser, rfl⟩ := counterpartyIn_eq_ok_iff.mp hc
    by_cases hheld : s.live.IsHeld me (UserId.qualify handle server)
    · have ho := outcome_create_held hme h.live hc hheld
      exact ends_of_error (.create handle) (outcome_bind_pure _ ho) rfl
    · rcases hu : s.live.user? me with _ | u
      · have ho := outcome_create_unregistered hme h.live hc hu
        exact ends_of_error (.create handle) (outcome_bind_pure _ ho) rfl
      · by_cases he : me = UserId.qualify handle server
        · rw [← he] at hheld
          exact Or.inl ⟨_, _, .ownRoom (by rw [hu]; rfl) he hheld⟩
        · obtain ⟨v, hv⟩ := Option.isSome_iff_exists.mp huser
          have ho := outcome_create_made hme h.live hc hheld hu hv he
          exact ends_of_ok (.create handle) (outcome_bind_pure _ ho)

theorem ends_accept {chat : String} (hchat : Text.isEncodable chat) :
    (Call.perform (some me) (.accept chat)).Ends server s := by
  rcases hm : s.live.member? chat me with _ | m
  · exact ends_of_error (.accept chat) (outcome_bind_pure _ (outcome_accept_none hme hchat hm)) rfl
  · rcases h.live.toCoherent.isActive_or_left (by rw [hm]; rfl) with ha | hw
    · exact ends_of_ok (.accept chat) (outcome_bind_pure _ (outcome_accept hme h.live ha))
    · exact ends_of_error (.accept chat)
        (outcome_bind_pure _ (outcome_accept_left hme h.live.valid hw)) rfl

theorem ends_decline {chat : String} (hchat : Text.isEncodable chat) :
    (Call.perform (some me) (.decline chat)).Ends server s := by
  rcases hm : s.live.member? chat me with _ | m
  · exact ends_of_error (.decline chat)
      (outcome_bind_pure _ (outcome_decline_none hme hchat hm)) rfl
  · have hs : (s.live.member? chat me).isSome := by rw [hm]; rfl
    obtain ⟨w, hw⟩ := h.live.toCoherent.exists_stands hs
    exact ends_of_ok (.decline chat) (outcome_bind_pure _ (outcome_decline hme h.live.valid hw))

theorem ends_invitations : (Call.perform (some me) .invitations).Ends server s := by
  have ho := outcome_bind_pure Answer.invitations (outcome_invitations hme h.live)
  rcases hm : List.mapM (fun x : Room => (Lifecycle.otherContact (.text me) x.members).map fun c =>
      (⟨chatId x.id, c⟩ : Invitation)) (Resolver.flagged (roomsIn me s.live) .invited) with e | all
  · rw [hm] at ho
    -- the only failure of an item is that of a room without another member
    obtain ⟨x, -, hx⟩ := exists_of_mapM_eq_error _ hm
    rw [Lifecycle.otherContact] at hx
    rcases hother : otherMember? (.text me) x.members with _ | m <;> rw [hother] at hx
    · cases hx
      exact ends_of_error .invitations ho rfl
    · cases hx
  · rw [hm] at ho
    exact ends_of_ok .invitations ho

theorem ends_joined : (Call.perform (some me) .joined).Ends server s := by
  by_cases ha : ∃ room, s.live.IsAlone room me
  · by_cases hb : ∃ room, s.live.IsAbandoned room me
    · obtain ⟨room, ha⟩ := ha
      obtain ⟨room', hb⟩ := hb
      exact Or.inl ⟨_, _, .swept ha hb (sweeps_leftRooms h.live)⟩
    · have hnil : staleIn me s.live = [] := by
        rw [List.eq_nil_iff_forall_not_mem]
        exact fun x hx => hb ⟨x.id, (exists_mem_staleIn h.live).mp ⟨x, hx, rfl⟩⟩
      have ho := joined_alone hme h ha
      rw [hnil] at ho
      exact ends_of_error .joined (outcome_bind_pure _ ho) rfl
  · obtain ⟨chats, ho, -⟩ := joined_answered hme h fun room hr => ha ⟨room, hr⟩
    exact ends_of_ok .joined (outcome_bind_pure _ ho)

omit h

variable (hb : s.live.HasBlockLists)
include hb

theorem ends_block (handle : String) : (Call.perform (some me) (.block handle)).Ends server s := by
  rcases hid : counterpartyIn server handle .block s.live with e | id
  · exact ends_subject_error rfl hid
  · obtain ⟨-, -, huser, rfl⟩ := counterpartyIn_eq_ok_iff.mp hid
    obtain ⟨blocked, hbl⟩ := hb.exists_blockList me
    have ho := outcome_block hme hid
    rw [hbl] at ho
    rcases hu : s.live.user? me with _ | u
    · exact Or.inl ⟨_, _, .stranger hme hu huser⟩
    · exact ends_of_ok (.block handle) (outcome_written hme ho (by rw [hu]; rfl))

theorem ends_unblock (hv : s.live.Valid) (handle : String) :
    (Call.perform (some me) (.unblock handle)).Ends server s := by
  rcases hid : counterpartyIn server handle .unblock s.live with e | id
  · exact ends_subject_error rfl hid
  · obtain ⟨blocked, hbl⟩ := hb.exists_blockList me
    have ho := outcome_unblock hme hid
    rw [hbl] at ho
    dsimp only at ho
    split_ifs at ho with hon
    · -- whoever has blocked somebody has a document, and is registered
      have hu : (s.live.user? me).isSome := by
        by_contra hno
        rw [Option.not_isSome_iff_eq_none] at hno
        obtain rfl := Except.ok.inj ((blockListIn_of_user?_eq_none hv hno).symm.trans hbl)
        cases hon
      exact ends_of_ok (.unblock handle) (outcome_written hme ho hu)
    · exact ends_of_ok (.unblock handle) ho

theorem ends_blocked : (Call.perform (some me) .blocked).Ends server s := by
  obtain ⟨blocked, hbl⟩ := hb.exists_blockList me
  have hl : (acting server (some me)).blockList.outcome s = _ := outcome_blockList hme
  rw [hbl] at hl
  have ho := outcome_bind_pure BlockList.accounts hl
  exact ends_of_ok .blocked (outcome_bind_pure _ ho)

end Acting

/-- **On a sound store every call is clean, or it meets the condition of a fault.** -/
theorem ends_call (h : s.Sound server) (hb : s.live.HasBlockLists) (c : Call) :
    c.Ends server s := by
  rcases c with ⟨handle, name⟩ | ⟨user, op⟩
  · exact ends_register handle name
  · rcases session_cases user op with ⟨e, hs⟩ | ⟨me, rfl, hme, hchat⟩
    · exact ends_refused hs
    · cases op with
      | create handle => exact ends_create hme h handle
      | accept chat => exact ends_accept hme h (hchat chat List.mem_cons_self)
      | decline chat => exact ends_decline hme h (hchat chat List.mem_cons_self)
      | invitations => exact ends_invitations hme h
      | joined => exact ends_joined hme h
      | block handle => exact ends_block hme hb handle
      | unblock handle => exact ends_unblock hme hb h.live.valid handle
      | blocked => exact ends_blocked hme hb

theorem hasBlockLists_empty (first number : Nat) : (empty first number).live.HasBlockLists := by
  intro user d hd
  cases hd

/-- **After every history a call is clean, unless it meets the condition of a fault.** A fault fails
with a failure that callers cannot tell apart, or after it has changed the tables. -/
theorem clean_history (server : String) (first number : Nat) (calls : List Call) (c : Call) :
    let s := (empty first number).after server calls
    (c.IsClean server s ↔ ¬ c.HasFault server s) ∧ (c.HasFault server s → c.IsFaulty server s) := by
  intro s
  have h : s.Sound server := sound_after server first number calls
  have hb : s.live.HasBlockLists :=
    hasBlockLists_after (sound_empty server first number) (hasBlockLists_empty first number) calls
  have hfaulty : c.HasFault server s → c.IsFaulty server s := Call.HasFault.isFaulty h hb
  refine ⟨⟨fun hc hf => (hfaulty hf).not_isClean hc, fun hf => ?_⟩, hfaulty⟩
  exact (ends_call h hb c).resolve_left hf

/-- Alice makes a chat with herself. That fails, and a room is left behind. -/
theorem create_own_room :
    let s := (empty 0 1).after "localhost" [.register "alice" none]
    ¬ (Call.perform (some "@alice:localhost") (.create "alice")).IsClean "localhost" s ∧
      ((Call.perform (some "@alice:localhost") (.create "alice")).next "localhost" s).live.rooms ≠
        s.live.rooms := by
  have hr : (Call.perform (some "@alice:localhost") (.create "alice")).reply "localhost"
      ((empty 0 1).after "localhost" [.register "alice" none]) = .error .constraint := by
    decide +kernel
  refine ⟨?_, by decide +kernel⟩
  rintro (⟨reply, hok⟩ | ⟨e, he, hchat, -, -⟩)
  · cases hr.symm.trans hok
  · obtain rfl := Except.error.inj (hr.symm.trans he)
    cases hchat

end PairChat.Store
