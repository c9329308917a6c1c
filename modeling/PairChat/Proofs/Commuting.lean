import PairChat.Proofs.History
import PairChat.Proofs.Writes

/-!
# Commuting: operations of different accounts in either order

Answering an invitation, keeping a block list and looking at either write nothing but what belongs
to the account, and what they answer and write can be told from what belongs to the account
(`Tables.AgreeOwn`).  Of a shared room they read who has a record in it, which no answer to an
invitation changes.

* `Tables.AgreeOwn.write`: writes of one account leave what belongs to another as it is.
* `isOwn_perform`: such an operation answers and writes the same wherever the account has the same.
* `independent_commute`: **two such operations of different accounts can be carried out in either
  order.**
-/

namespace PairChat

/-- Does the operation neither make a chat nor look for chats that were left? -/
def Operation.isIndependent : Operation → Bool
  | .create _ | .joined => false
  | .accept _ | .decline _ | .invitations | .block _ | .unblock _ | .blocked => true

namespace Store

open PairChat.Action Account

variable {server me you room user : String} {s s' : Store}

namespace Tables

variable {t t' : Tables} {clock next clock' next' : Nat}

/-- **What belongs to the account is the same in both tables.** Of the records of others it is only
the same which there are. -/
structure AgreeOwn (me : String) (t t' : Tables) : Prop where
  users : t.users = t'.users
  rooms : t.rooms = t'.rooms
  records : ∀ room, t.member? room me = t'.member? room me
  present : ∀ room user, (t.member? room user).isSome = (t'.member? room user).isSome
  documents : ∀ type, t.document? me type = t'.document? me type

theorem AgreeOwn.refl (me : String) (t : Tables) : AgreeOwn me t t :=
  ⟨rfl, rfl, fun _ => rfl, fun _ _ => rfl, fun _ => rfl⟩

theorem AgreeOwn.trans {t'' : Tables} (h : t.AgreeOwn me t') (h' : t'.AgreeOwn me t'') :
    t.AgreeOwn me t'' :=
  ⟨h.users.trans h'.users, h.rooms.trans h'.rooms, fun r => (h.records r).trans (h'.records r),
    fun r v => (h.present r v).trans (h'.present r v),
    fun type => (h.documents type).trans (h'.documents type)⟩

namespace AgreeOwn

variable (h : t.AgreeOwn me t')
include h

/-! ### What the account reads -/

theorem user? (id : String) : t.user? id = t'.user? id := by
  rw [Tables.user?, h.users, Tables.user?]

theorem stands {w : Membership} : t.Stands room me w ↔ t'.Stands room me w := by
  rw [Stands, Stands, h.records]

theorem hasOther : t.HasOther room me ↔ t'.HasOther room me := by
  simp only [HasOther, h.present]

theorem document (type : String) : t.document me type = t'.document me type := by
  rw [document_eq, document_eq, h.documents]

theorem blockListIn : blockListIn me t = blockListIn me t' := by
  rw [Account.blockListIn, Account.blockListIn, h.document]

theorem listing : t.listing me = t'.listing me := by
  rw [Tables.listing, Tables.listing, registryIn, registryIn, h.document]

theorem counterpartyIn (handle : String) (purpose : Purpose) :
    counterpartyIn server handle purpose t = counterpartyIn server handle purpose t' := by
  rw [Account.counterpartyIn, Account.counterpartyIn, h.user?]

theorem refusalIn (user : Option String) (e : Failure) (op : Operation) :
    refusalIn server user e op t = refusalIn server user e op t' := by
  unfold Store.refusalIn
  rcases subject? op with _ | ⟨handle, purpose⟩
  · rfl
  · simp only [h.counterpartyIn]

/-- The account sees the same contact in a room, whatever the record of the other says. -/
theorem otherContact (hs : t.Coherent server clock next) (hs' : t'.Coherent server clock' next')
    (hm : (t.member? room me).isSome) :
    Lifecycle.otherContact (.text me) (membersIn room t) =
      Lifecycle.otherContact (.text me) (membersIn room t') := by
  by_cases ho : t.HasOther room me
  · obtain ⟨v, hv, hvm⟩ := ho
    obtain ⟨handle, name, hq, hname, hc⟩ := otherContact_of_other hs hm hv hvm
    obtain ⟨handle', name', hq', hname', hc'⟩ :=
      otherContact_of_other hs' (h.present room me ▸ hm) hv (h.present room v ▸ hvm)
    obtain rfl := UserId.qualify_injective (hq.trans hq'.symm)
    rw [h.user?] at hname
    obtain rfl := Option.some.inj (hname.symm.trans hname')
    rw [hc, hc']
  · rw [otherContact_alone hs ho, otherContact_alone hs' (h.hasOther.not.mp ho)]

end AgreeOwn

/-- The invitations of an account, as it lists them. -/
def invitationsIn (t : Tables) (me : String) : Except Failure (List Invitation) :=
  (Resolver.flagged (roomsIn me t) .invited).mapM fun x =>
    (Lifecycle.otherContact (.text me) x.members).map fun c => ⟨chatId x.id, c⟩

theorem AgreeOwn.invitationsIn (h : t.AgreeOwn me t') (hs : t.Coherent server clock next)
    (hs' : t'.Coherent server clock' next') : t.invitationsIn me = t'.invitationsIn me := by
  have hrooms : t.invitedRooms me = t'.invitedRooms me := by
    rw [invitedRooms, invitedRooms, ← h.rooms]
    exact List.filter_congr fun row _ => decide_eq_decide.mpr h.stands
  unfold Tables.invitationsIn
  rw [flagged_invited hs, flagged_invited hs', ← hrooms, List.mapM_map, List.mapM_map]
  refine mapM_congr fun row hrow => ?_
  have hm : t.Stands row.id me .invited := by simpa using (List.mem_filter.mp hrow).2
  exact congrArg (Except.map _) (h.otherContact hs hs' hm.isSome)

end Tables

/-! ### What others write -/

/-- **Writes of one account leave what belongs to another as it is.** -/
theorem agreeOwn_write (hne : me ≠ you) (w : Write) :
    s.live.AgreeOwn me (s.write you w).live := by
  cases w with
  | record room w =>
    refine { Tables.AgreeOwn.refl me s.live with records := fun r => ?_, present := fun r v => ?_ }
    · have hk : (r, me) ≠ (room, you) := fun e => hne (Prod.mk.inj e).2
      exact ((Tables.member?_withRecord _ r me).trans (if_neg hk)).symm
    · exact (Tables.member?_withRecord_isSome _ r v).symm
  | document type content =>
    refine { Tables.AgreeOwn.refl me s.live with documents := fun type' => ?_ }
    have hk : (me, type') ≠ (you, type) := fun e => hne (Prod.mk.inj e).1
    exact ((Tables.document?_withDocument _ me type').trans (if_neg hk)).symm
  | instant => exact Tables.AgreeOwn.refl me s.live

theorem agreeOwn_writeAll (hne : me ≠ you) (ws : List Write) :
    s.live.AgreeOwn me (s.writeAll you ws).live := by
  induction ws generalizing s with
  | nil => exact Tables.AgreeOwn.refl me s.live
  | cons w ws ih => exact (agreeOwn_write hne w).trans ih

/-! ### What an operation answers and writes -/

/-- What the operation answers and what it writes can be told from what belongs to the account. -/
def IsOwn (server me : String) (op : Operation) (s : Store) : Prop :=
  ∃ (answer : Except Failure Answer) (ws : List Write), ∀ s' : Store, s'.Sound server →
    s.live.AgreeOwn me s'.live →
      (op.perform (acting server (some me)).provider).outcome s' = (answer, s'.writeAll me ws)

theorem isOwn_refused {op : Operation} {e : Failure}
    (hs : sessionIn (some me) (firstTexts op) = .error e) : IsOwn server me op s := by
  refine ⟨.error (refusalIn server (some me) e op s.live), [], fun s' _ ha => ?_⟩
  rw [outcome_refused op hs, ha.refusalIn, writeAll_nil]

/-- Where the handle has no account, this is all that is said. -/
theorem isOwn_subject_error {op : Operation} {handle : String} {purpose : Purpose} {e : Failure}
    (hop : subject? op = some (handle, purpose))
    (hc : counterpartyIn server handle purpose s.live = .error e) : IsOwn server me op s := by
  refine ⟨.error e, [], fun s' _ ha => ?_⟩
  exact outcome_subject_error hop ((ha.counterpartyIn handle purpose).symm.trans hc)

section Acting
variable (hme : IsName me)
include hme

theorem isOwn_decline (h : s.Sound server) {chat : String} (hchat : Text.isEncodable chat) :
    IsOwn server me (.decline chat) s := by
  rcases hm : s.live.member? chat me with _ | m
  · refine ⟨.error (.roomNotFound chat), [], fun s' _ ha => ?_⟩
    exact outcome_bind_error (outcome_decline_none hme hchat (ha.records chat ▸ hm))
  · have hs : (s.live.member? chat me).isSome := by rw [hm]; rfl
    obtain ⟨w, hw⟩ := h.live.toCoherent.exists_stands hs
    refine ⟨.ok .done, [.record chat .left], fun s' hs' ha => ?_⟩
    exact outcome_bind_ok (outcome_decline hme hs'.live.valid (ha.stands.mp hw))

omit hme in
/-- Listing a room is a write, where it is not listed yet. -/
theorem listed_eq_writeAll (s : Store) (me room : String) : s.listed me room = s.writeAll me
    (if room ∈ s.live.listing me then [] else [.document registryType
      (Registry.toContent .text [(me, s.live.listing me ++ [room])])]) := by
  unfold listed Tables.withListed
  split_ifs <;> rfl

theorem isOwn_accept (h : s.Sound server) {chat : String} (hchat : Text.isEncodable chat) :
    IsOwn server me (.accept chat) s := by
  rcases hm : s.live.member? chat me with _ | m
  · refine ⟨.error (.roomNotFound chat), [], fun s' _ ha => ?_⟩
    exact outcome_bind_error (outcome_accept_none hme hchat (ha.records chat ▸ hm))
  · have hs : (s.live.member? chat me).isSome := by rw [hm]; rfl
    rcases h.live.toCoherent.isActive_or_left hs with hactive | hw
    · refine ⟨.ok .done, .record chat .joined :: if chat ∈ s.live.listing me then [] else
        [.document registryType (Registry.toContent .text [(me, s.live.listing me ++ [chat])])],
        fun s' hs' ha => ?_⟩
      have hactive' : s'.live.IsActive chat me := (or_congr ha.stands ha.stands).mp hactive
      refine (outcome_bind_ok (outcome_accept hme hs'.live hactive')).trans ?_
      rw [listed_eq_writeAll, live_joinedRoom, Tables.listing_withRecord, ha.listing]
      rfl
    · refine ⟨.error (notInvited me chat), [], fun s' hs' ha => ?_⟩
      exact outcome_bind_error (outcome_accept_left hme hs'.live.valid (ha.stands.mp hw))

theorem isOwn_invitations (h : s.Sound server) : IsOwn server me .invitations s := by
  refine ⟨(s.live.invitationsIn me).map .invitations, [], fun s' hs' ha => ?_⟩
  rw [ha.invitationsIn h.live.toCoherent hs'.live.toCoherent]
  exact outcome_bind_pure _ (outcome_invitations hme hs'.live)

theorem isOwn_blocked : IsOwn server me .blocked s := by
  refine ⟨((blockListIn me s.live).map BlockList.accounts).map .accounts, [], fun s' _ ha => ?_⟩
  have hb : (acting server (some me)).blockList.outcome s' = _ := outcome_blockList hme
  rw [ha.blockListIn]
  exact outcome_bind_pure _ (outcome_bind_pure BlockList.accounts hb)

/-- An operation that comes down to writing a block list. -/
theorem isOwn_setBlockList {op : Operation} (blocked : BlockList)
    (ho : ∀ s' : Store, s.live.AgreeOwn me s'.live →
      (op.perform (acting server (some me)).provider).outcome s' =
        ((acting server (some me)).setBlockList blocked >>= fun _ => pure Answer.done).outcome s') :
    IsOwn server me op s := by
  rcases hu : s.live.user? me with _ | u
  · refine ⟨.error .constraint, [.instant], fun s' _ ha => ?_⟩
    exact outcome_unwritten hme (ho s' ha) (ha.user? me ▸ hu)
  · refine ⟨.ok .done, [.document blockListType blocked.toContent], fun s' _ ha => ?_⟩
    exact outcome_written hme (ho s' ha) (by rw [← ha.user? me, hu]; rfl)

theorem isOwn_block (handle : String) : IsOwn server me (.block handle) s := by
  rcases hc : counterpartyIn server handle .block s.live with e | id
  · exact isOwn_subject_error rfl hc
  · have ho := fun (s' : Store) (ha : s.live.AgreeOwn me s'.live) =>
      outcome_block hme ((ha.counterpartyIn handle .block).symm.trans hc)
    rcases hb : blockListIn me s.live with e | blocked
    · refine ⟨.error e, [], fun s' _ ha => (ho s' ha).trans ?_⟩
      rw [← ha.blockListIn, hb]
      rfl
    · refine isOwn_setBlockList hme (blocked.block id) fun s' ha => (ho s' ha).trans ?_
      rw [← ha.blockListIn, hb]

theorem isOwn_unblock (handle : String) : IsOwn server me (.unblock handle) s := by
  rcases hc : counterpartyIn server handle .unblock s.live with e | id
  · exact isOwn_subject_error rfl hc
  · have ho := fun (s' : Store) (ha : s.live.AgreeOwn me s'.live) =>
      outcome_unblock hme ((ha.counterpartyIn handle .unblock).symm.trans hc)
    rcases hb : blockListIn me s.live with e | blocked
    · refine ⟨.error e, [], fun s' _ ha => (ho s' ha).trans ?_⟩
      rw [← ha.blockListIn, hb]
      rfl
    · by_cases hin : blocked.contains id
      · refine isOwn_setBlockList hme (blocked.unblock id) fun s' ha =>
          (ho s' ha).trans ?_
        rw [← ha.blockListIn, hb]
        exact if_pos hin
      · refine ⟨.ok .done, [], fun s' _ ha => (ho s' ha).trans ?_⟩
        rw [← ha.blockListIn, hb]
        exact if_neg hin

end Acting

/-- **An independent operation answers and writes the same wherever the account has the same.** -/
theorem isOwn_perform (h : s.Sound server) (me : String) {op : Operation} (hop : op.isIndependent) :
    IsOwn server me op s := by
  rcases session_cases (some me) op with ⟨e, hs⟩ | ⟨name, he, hme, hchat⟩
  · exact isOwn_refused hs
  · obtain rfl := Option.some.inj he
    cases op with
    | create handle => cases hop
    | accept chat => exact isOwn_accept hme h (hchat chat List.mem_cons_self)
    | decline chat => exact isOwn_decline hme h (hchat chat List.mem_cons_self)
    | invitations => exact isOwn_invitations hme h
    | joined => cases hop
    | block handle => exact isOwn_block hme handle
    | unblock handle => exact isOwn_unblock hme handle
    | blocked => exact isOwn_blocked hme

/-! ### Either order -/

/-- **Independent operations of different accounts can be carried out in either order.** After every
history, each of them has the same reply before the other one and after it, and both orders lead to
the same rows, but for the times of the records. -/
theorem independent_commute (server : String) (first number : Nat) (calls : List Call)
    {a b : String} (hab : a ≠ b) {p q : Operation} (hp : p.isIndependent) (hq : q.isIndependent) :
    let s := (empty first number).after server calls
    let byA := Call.perform (some a) p
    let byB := Call.perform (some b) q
    byA.reply server (byB.next server s) = byA.reply server s ∧
      byB.reply server (byA.next server s) = byB.reply server s ∧
      (byB.next server (byA.next server s)).SameRows (byA.next server (byB.next server s)) := by
  intro s byA byB
  have h : s.Sound server := sound_after server first number calls
  obtain ⟨r, ws, hpa⟩ := isOwn_perform h a hp
  obtain ⟨r', ws', hqb⟩ := isOwn_perform h b hq
  have hA := hpa s h (Tables.AgreeOwn.refl a s.live)
  have hB := hqb s h (Tables.AgreeOwn.refl b s.live)
  have hnextA : byA.next server s = s.writeAll a ws := next_perform p hA
  have hnextB : byB.next server s = s.writeAll b ws' := next_perform q hB
  have hAB := hqb _ (hnextA ▸ h.next byA) (agreeOwn_writeAll hab.symm ws)
  have hBA := hpa _ (hnextB ▸ h.next byB) (agreeOwn_writeAll hab ws')
  rw [hnextA, hnextB]
  refine ⟨(reply_perform p hBA).trans (reply_perform p hA).symm,
    (reply_perform q hAB).trans (reply_perform q hB).symm, ?_⟩
  rw [show byB.next server (s.writeAll a ws) = _ from next_perform q hAB,
    show byA.next server (s.writeAll b ws') = _ from next_perform p hBA]
  exact sameRows_writeAll_comm hab ws ws'

/-- Bob accepts an invitation of Alice while Alice leaves the room: the two orders differ in the
times of the records only. -/
theorem independent_commute_answered :
    let s := (empty 0 1).after "localhost" [.register "alice" none, .register "bob" none,
      .perform (some "@alice:localhost") (.create "bob")]
    let leaves := Call.perform (some "@alice:localhost") (.decline "!room1:localhost")
    let joins := Call.perform (some "@bob:localhost") (.accept "!room1:localhost")
    leaves.reply "localhost" (joins.next "localhost" s) = .ok (.answered .done) ∧
      joins.reply "localhost" (leaves.next "localhost" s) = .ok (.answered .done) ∧
      (joins.next "localhost" (leaves.next "localhost" s)).SameRows
        (leaves.next "localhost" (joins.next "localhost" s)) ∧
      joins.next "localhost" (leaves.next "localhost" s) ≠
        leaves.next "localhost" (joins.next "localhost" s) := by
  intro s leaves joins
  have hne : "@alice:localhost" ≠ "@bob:localhost" := by decide
  have h := independent_commute "localhost" 0 1 [.register "alice" none, .register "bob" none,
    .perform (some "@alice:localhost") (.create "bob")] hne
    (p := .decline "!room1:localhost") rfl (q := .accept "!room1:localhost") rfl
  exact ⟨h.1.trans (by decide +kernel), h.2.1.trans (by decide +kernel), h.2.2, by decide +kernel⟩

end Store

end PairChat
