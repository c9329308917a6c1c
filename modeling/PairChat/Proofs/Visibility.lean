import PairChat.Proofs.Agreement
import PairChat.Proofs.Convergence
import PairChat.Proofs.History

/-!
# Visibility: what an account can find out

An account cannot tell stores apart that look the same to it (`Store.Agree`): whatever it does, it
gets the same answers and failures from both, and they look the same to it afterwards.  So nothing
that it does tells it about a room in which it has no record.

* `Action.Alike`: an action answers alike in two states and keeps a relation between them.  This
  goes through `>>=`, so an operation is alike if each of its statements is.
* `alike_perform`: **every operation of the account is alike in stores that look the same to it.**
* `agree_after`: **so is every sequence of them.**
-/

namespace PairChat

namespace Action

variable {σ α β : Type} {R : σ → σ → Prop} {s s' t t' : σ}

/-- The action answers alike in both states, and it leaves states in the relation. -/
def Alike (R : σ → σ → Prop) (a : Action σ α) (s s' : σ) : Prop :=
  (a.outcome s).1 = (a.outcome s').1 ∧ R (a.outcome s).2 (a.outcome s').2

theorem alike_of_outcome {a : Action σ α} {r : Except Failure α} (ho : a.outcome s = (r, t))
    (ho' : a.outcome s' = (r, t')) (h : R t t') : Alike R a s s' := by
  unfold Alike
  rw [ho, ho']
  exact ⟨rfl, h⟩

theorem alike_pure (x : α) (h : R s s') : Alike R (pure x : Action σ α) s s' := ⟨rfl, h⟩

theorem alike_throw (e : Failure) (h : R s s') : Alike R (throw e : Action σ α) s s' := ⟨rfl, h⟩

theorem alike_lift (r : Except Failure α) (h : R s s') : Alike R (lift r) s s' := ⟨rfl, h⟩

/-- An action that comes down to another one in both states. -/
theorem Alike.congr {a b : Action σ α} (hs : a.outcome s = b.outcome s)
    (hs' : a.outcome s' = b.outcome s') (h : Alike R b s s') : Alike R a s s' := by
  unfold Alike
  rw [hs, hs']
  exact h

theorem Alike.bind {a : Action σ α} {f : α → Action σ β} (ha : Alike R a s s')
    (hf : ∀ x t t', a.outcome s = (.ok x, t) → a.outcome s' = (.ok x, t') → R t t' →
      Alike R (f x) t t') : Alike R (a >>= f) s s' := by
  obtain ⟨hr, hR⟩ := ha
  rcases ho : a.outcome s with ⟨r, t⟩
  rcases ho' : a.outcome s' with ⟨r', t'⟩
  rw [ho, ho'] at hr hR
  obtain rfl : r = r' := hr
  unfold Alike
  rw [outcome_bind, outcome_bind, ho, ho']
  rcases r with e | x
  · exact ⟨rfl, hR⟩
  · exact hf x t t' ho ho' hR

/-- Where the first action is known to have an answer, the second one decides. -/
theorem alike_bind_of_ok {a : Action σ α} {f : α → Action σ β} {x : α}
    (ho : a.outcome s = (.ok x, t)) (ho' : a.outcome s' = (.ok x, t'))
    (hf : Alike R (f x) t t') : Alike R (a >>= f) s s' := by
  unfold Alike at hf ⊢
  rw [outcome_bind_ok ho, outcome_bind_ok ho']
  exact hf

theorem Alike.recover {a : Action σ α} (ha : Alike R a s s') (f : Failure → Except Failure α) :
    Alike R (recover a f) s s' := by
  obtain ⟨hr, hR⟩ := ha
  rcases ho : a.outcome s with ⟨r, t⟩
  rcases ho' : a.outcome s' with ⟨r', t'⟩
  rw [ho, ho'] at hr hR
  obtain rfl : r = r' := hr
  unfold Alike
  rw [outcome_recover, outcome_recover, ho, ho']
  rcases r with e | x <;> exact ⟨rfl, hR⟩

end Action

namespace Store

open PairChat.Action Account

variable {server me room : String} {s s' : Store}

/-- **The stores look the same to the account.** They have the same clock and will give new rooms
the same names, which are free in both. -/
structure Agree (server me : String) (s s' : Store) : Prop where
  live : s.live.Agree me s'.live
  clock : s.clock = s'.clock
  nextRoom : s.nextRoom = s'.nextRoom
  free : ∀ number, s.nextRoom ≤ number → s.live.room? (roomName server number) = none
  free' : ∀ number, s'.nextRoom ≤ number → s'.live.room? (roomName server number) = none

/-- A query that reads the same from both stores. -/
theorem alike_query_bind {α β : Type} {R : Store → Store → Prop} {f : Tables → α}
    {g : α → Action Store β} (hf : f s.live = f s'.live) (hg : Alike R (g (f s.live)) s s') :
    Alike R (query f >>= g) s s' :=
  alike_bind_of_ok (outcome_query f) ((outcome_query f).trans (by rw [hf])) hg

namespace Agree

variable (h : s.Agree server me s')
include h

/-! ### What is written -/

theorem record (room user word : String) :
    s.record room user word = s'.record room user word := by
  rw [Store.record, Store.record, h.live.user?, h.clock]

/-- Tables with the same rooms are committed. -/
theorem wrote {t t' : Tables} (ht : t.Agree me t') (hr : t.rooms = s.live.rooms)
    (hr' : t'.rooms = s'.live.rooms) : (s.wrote t).Agree server me (s'.wrote t') where
  live := ht
  clock := congrArg (· + 1) h.clock
  nextRoom := h.nextRoom
  free := fun number hn => by
    rw [live_wrote, Tables.room?, hr]
    exact h.free number hn
  free' := fun number hn => by
    rw [live_wrote, Tables.room?, hr']
    exact h.free' number hn

theorem ticked : Agree server me { s with clock := s.clock + 1 }
    { s' with clock := s'.clock + 1 } :=
  { h with clock := congrArg (· + 1) h.clock }

theorem leftRoom (hm : (s.live.member? room me).isSome) :
    (s.leftRoom me room).Agree server me (s'.leftRoom me room) := by
  unfold Store.leftRoom
  rw [← h.record]
  exact h.wrote (h.live.withRecord rfl hm) rfl rfl

theorem leftRooms {rooms : List Room} (hm : ∀ x ∈ rooms, (s.live.member? x.id me).isSome) :
    (s.leftRooms me rooms).Agree server me (s'.leftRooms me rooms) := by
  induction rooms generalizing s s' with
  | nil => exact h
  | cons x rooms ih =>
    refine ih (h.leftRoom (hm x List.mem_cons_self)) fun y hy => ?_
    rw [live_leftRoom, Tables.member?_withRecord_isSome]
    exact hm y (List.mem_cons_of_mem x hy)

/-! ### Statements -/

theorem alike_setMembership {word : String} (hme : IsName me) (hword : Text.isEncodable word)
    (hm : (s.live.member? room me).isSome) :
    Alike (Agree server me) (setMembership room me word none) s s' := by
  have hm' : (s'.live.member? room me).isSome := h.live.member?_self room ▸ hm
  refine alike_of_outcome (outcome_setMembership (bound_ownRecord hme h.live.valid hm hword) hm)
    ((outcome_setMembership (bound_ownRecord hme h.live.valid' hm' hword) hm').trans ?_)
    (h.wrote (h.live.withRecord rfl hm) rfl rfl)
  rw [h.record]

theorem alike_setDocument {type : String} (hme : IsName me) (htype : Text.isEncodable type)
    (content : Value) : Alike (Agree server me) (setDocument me type content) s s' := by
  have hid := hme.isEncodable
  rcases hu : s.live.user? me with _ | u
  · exact alike_of_outcome (outcome_setDocument_unknown hid htype content hu)
      (outcome_setDocument_unknown hid htype content (h.live.user? me ▸ hu)) h.ticked
  · have hs : (s.live.user? me).isSome := by rw [hu]; rfl
    exact alike_of_outcome (outcome_setDocument hid htype content hs)
      (outcome_setDocument hid htype content (h.live.user? me ▸ hs))
      (h.wrote (h.live.withDocument hs) rfl rfl)

omit h in
/-- After a room was made, the names of the further rooms are free. -/
theorem free_withRoom {t : Tables} {next : Nat} {row : RoomRow} {rs : List MemberRow}
    (hid : row.id = roomName server next)
    (hfree : ∀ number, next ≤ number → t.room? (roomName server number) = none) :
    ∀ number, next + 1 ≤ number → (t.withRoom row rs).room? (roomName server number) = none := by
  intro number hn
  have hne : row.id ≠ roomName server number := by
    intro e
    have := roomName_injective (hid.symm.trans e)
    omega
  rw [Tables.room?, Tables.withRoom, List.find?_append, List.find?_singleton, if_neg (by simpa)]
  exact (Option.or_none).trans (hfree number (by omega))

theorem newRoom : s.newRoom server me = s'.newRoom server me := by
  rw [Store.newRoom, Store.newRoom, h.nextRoom, h.clock]

theorem makerRecord : s.makerRecord server me = s'.makerRecord server me := by
  rw [Store.makerRecord, Store.makerRecord, h.nextRoom, h.record]

theorem invitedRecord (user : String) :
    s.invitedRecord server user = s'.invitedRecord server user := by
  rw [Store.invitedRecord, Store.invitedRecord, h.nextRoom, h.record]

/-- The number of a room that could not be made is taken. -/
theorem numbered : s.numbered.Agree server me s'.numbered where
  live := h.live
  clock := congrArg (· + 1) h.clock
  nextRoom := congrArg (· + 1) h.nextRoom
  free := fun number hn => h.free number (Nat.le_of_succ_le hn)
  free' := fun number hn => h.free' number (Nat.le_of_succ_le hn)

section Room
variable (hserver : Text.isEncodable server) (hu : (s.live.user? me).isSome)
include hserver hu

theorem begunRoom : (s.begunRoom server me).Agree server me (s'.begunRoom server me) where
  live := by
    rw [live_begunRoom, live_begunRoom, ← h.newRoom, ← h.makerRecord]
    refine h.live.withRoom (h.live.valid.bound_nextRoomRow hserver true hu)
      (h.free _ (Nat.le_refl _)) ?_ hu ?_ (by simp) ⟨_, List.mem_singleton_self _, rfl⟩
    · rw [h.newRoom]
      exact h.free' _ (Nat.le_refl _)
    · simpa [Store.makerRecord, Store.record, Store.newRoom] using hu
  clock := congrArg (· + 1) h.clock
  nextRoom := congrArg (· + 1) h.nextRoom
  free := free_withRoom rfl h.free
  free' := free_withRoom rfl h.free'

theorem madeRoom {user : String} (hv : (s.live.user? user).isSome) (hne : me ≠ user) :
    (s.madeRoom server me user).Agree server me (s'.madeRoom server me user) where
  live := by
    rw [live_madeRoom, live_madeRoom, ← h.newRoom, ← h.makerRecord, ← h.invitedRecord]
    refine h.live.withRoom (h.live.valid.bound_nextRoomRow hserver true hu)
      (h.free _ (Nat.le_refl _)) ?_ hu ?_ ?_ ⟨_, List.mem_cons_self, rfl⟩
    · rw [h.newRoom]
      exact h.free' _ (Nat.le_refl _)
    · simpa [Store.makerRecord, Store.invitedRecord, Store.record, Store.newRoom] using ⟨hu, hv⟩
    · simpa [Store.makerRecord, Store.invitedRecord, Store.record] using hne
  clock := congrArg (· + 1) h.clock
  nextRoom := congrArg (· + 1) h.nextRoom
  free := free_withRoom rfl h.free
  free' := free_withRoom rfl h.free'

end Room

theorem alike_createRoom (user : String) :
    Alike (Agree server me) (createRoom (some me) server [some user] (some true)) s s' := by
  have hroom := h.free _ (Nat.le_refl _)
  have hroom' := h.free' _ (Nat.le_refl _)
  have hvalid := h.live.valid
  have hvalid' := h.live.valid'
  rcases hu : s.live.user? me with _ | u
  · exact alike_of_outcome (outcome_createRoom_unknown server _ _ hu)
      (outcome_createRoom_unknown server _ _ (h.live.user? me ▸ hu)) h
  · have hu' : s'.live.user? me = some u := h.live.user? me ▸ hu
    have hs : (s.live.user? me).isSome := by rw [hu]; rfl
    rcases hv : s.live.user? user with _ | v
    · exact alike_of_outcome (outcome_createRoom_noInvitee hvalid hu hv)
        (outcome_createRoom_noInvitee hvalid' hu' (h.live.user? user ▸ hv)) h
    · have hv' : s'.live.user? user = some v := h.live.user? user ▸ hv
      by_cases hserver : Text.isEncodable server
      · by_cases hne : me = user
        · subst hne
          exact alike_of_outcome (outcome_createRoom_self hvalid hu hserver hroom)
            (outcome_createRoom_self hvalid' hu' hserver hroom') (h.begunRoom hserver hs)
        · refine alike_of_outcome (outcome_createRoom hvalid hu hv hserver hroom hne)
            ((outcome_createRoom hvalid' hu' hv' hserver hroom' hne).trans ?_)
            (h.madeRoom hserver hs (by rw [hv]; rfl) hne)
          rw [h.newRoom]
      · rw [Bool.not_eq_true] at hserver
        refine alike_of_outcome (outcome_createRoom_noName hvalid hu hv hserver)
          ((outcome_createRoom_noName hvalid' hu' hv' hserver).trans ?_) h.numbered
        rw [h.nextRoom]

/-! ### The provider -/

theorem alike_session {α : Type} {texts : List String} {f : String → Action Store α}
    (hf : IsName me → bound texts = .ok () → Alike (Agree server me) (f me) s s') :
    Alike (Agree server me) ((acting server (some me)).session texts >>= f) s s' := by
  rcases hs : sessionIn (some me) texts with e | name
  · have ho : ∀ s, ((acting server (some me)).session texts).outcome s = (.error e, s) :=
      fun s => (outcome_session_eq _ _).trans (by rw [hs])
    exact alike_of_outcome (outcome_bind_error (ho s)) (outcome_bind_error (ho s')) h
  · obtain ⟨he, hme, hb⟩ := sessionIn_eq_ok_iff.mp hs
    obtain rfl := Option.some.inj he
    exact alike_bind_of_ok (outcome_session hme hb) (outcome_session hme hb) (hf hme hb)

theorem alike_query {α : Type} {f : Tables → α} (hf : f s.live = f s'.live) :
    Alike (Agree server me) (query f) s s' :=
  alike_of_outcome (outcome_query f) ((outcome_query f).trans (by rw [hf])) h

theorem alike_updateRegistry (hme : IsName me)
    (f : Registry String → Except Failure (Registry String × Bool)) :
    Alike (Agree server me) (updateRegistry me f) s s' := by
  refine alike_query_bind h.live.registryIn ?_
  refine (alike_lift _ h).bind fun reg t t' _ _ ht => ?_
  refine (alike_lift _ ht).bind fun changed t t' _ _ ht => ?_
  dsimp only
  split_ifs
  · exact ht.alike_setDocument hme (by decide) _
  · exact alike_pure () ht

theorem alike_create (hme : IsName me) (user : String) :
    Alike (Agree server me) ((acting server (some me)).provider.create user) s s' := by
  have ho : ∀ s : Store, ((acting server (some me)).provider.create user).outcome s = _ :=
    fun _ => outcome_create_eq hme user
  refine Alike.congr (ho s) (ho s') ?_
  refine ((h.alike_createRoom user).recover _).bind fun row t t' _ _ ht => ?_
  exact (ht.alike_updateRegistry hme _).bind fun _ _ _ _ _ ht => alike_pure _ ht

theorem alike_room? (room : String) :
    Alike (Agree server me) ((acting server (some me)).provider.room? room) s s' := by
  refine h.alike_session fun _ _ => h.alike_query ?_
  rw [← h.live.member?_self]
  rcases hm : s.live.member? room me with _ | r
  · rfl
  · simp only [Option.bind_some]
    rw [h.live.roomIn (by rw [hm]; rfl)]

theorem alike_join (user : Value) (room : String) :
    Alike (Agree server me) ((acting server (some me)).provider.join user room) s s' := by
  refine h.alike_session fun hme _ => alike_query_bind (h.live.member?_self room) ?_
  split_ifs with hmay
  · have hm : (s.live.member? room me).isSome := by
      rcases hr : s.live.member? room me with _ | r
      · rw [hr] at hmay
        cases hmay
      · rfl
    exact (h.alike_setMembership hme (by decide) hm).bind fun _ _ _ _ _ ht =>
      ht.alike_updateRegistry hme _
  · exact alike_throw _ h

theorem alike_leave (room : String) :
    Alike (Agree server me) ((acting server (some me)).provider.leave room) s s' := by
  refine h.alike_session fun hme _ => alike_query_bind (h.live.member?_self room) ?_
  split_ifs with hm
  · exact (h.alike_setMembership hme (by decide) hm).bind fun _ _ _ _ _ ht => alike_pure () ht
  · exact alike_throw _ h

theorem alike_blockList : Alike (Agree server me) (acting server (some me)).blockList s s' := by
  refine h.alike_session fun _ _ => ?_
  exact alike_query_bind (h.live.document blockListType) (alike_lift _ h)

theorem alike_setBlockList (blocked : BlockList) :
    Alike (Agree server me) ((acting server (some me)).setBlockList blocked) s s' :=
  h.alike_session fun hme _ => h.alike_setDocument hme (by decide) _

theorem alike_block (user : String) :
    Alike (Agree server me) ((acting server (some me)).provider.block user) s s' :=
  h.alike_blockList.bind fun _ _ _ _ _ ht => ht.alike_setBlockList _

theorem alike_unblock (user : String) :
    Alike (Agree server me) ((acting server (some me)).provider.unblock user) s s' := by
  refine h.alike_blockList.bind fun blocked t t' _ _ ht => ?_
  split_ifs
  · exact ht.alike_setBlockList _
  · exact alike_pure () ht

/-! ### Resolution -/

theorem alike_resolve (hne : me ≠ "") (m : Membership) :
    Alike (Agree server me)
      (Resolver.resolve (acting server (some me)).provider (.text me) m) s s' := by
  have howner := knownOwner_text hne
  rcases hs : sessionIn (some me) [] with e | name
  · exact alike_of_outcome (outcome_resolve_refused hs howner m)
      (outcome_resolve_refused hs howner m) h
  · obtain ⟨he, hme, -⟩ := sessionIn_eq_ok_iff.mp hs
    obtain rfl := Option.some.inj he
    rcases hl : listedIn me (.text me) s.live with e | listed
    · exact alike_of_outcome (outcome_resolve_error hme howner m hl)
        (outcome_resolve_error hme howner m (h.live.listedIn _ ▸ hl)) h
    · have hl' : listedIn me (.text me) s'.live = .ok listed := h.live.listedIn _ ▸ hl
      have hstale' : staleOf me s'.live listed m = staleOf me s.live listed m := by
        rw [staleOf, staleOf, ← h.live.roomsIn]
      have hstale : ∀ x ∈ staleOf me s.live listed m, (s.live.member? x.id me).isSome := fun x hx =>
        (member?_isSome_of_mem_roomsIn (List.mem_of_mem_filter (List.mem_of_mem_filter hx))).2
      have hb : ∀ x ∈ staleOf me s.live listed m,
          bound (s.record x.id me Membership.left.wire).texts = .ok () := fun x hx =>
        bound_ownRecord hme h.live.valid (hstale x hx) (by decide)
      refine alike_of_outcome (outcome_resolve hme howner m hl hb)
        ((outcome_resolve hme howner m hl' ?_).trans ?_) (h.leftRooms hstale)
      · intro x hx
        rw [← h.record]
        exact hb x (hstale' ▸ hx)
      · rw [hstale', ← h.live.roomsIn]

theorem alike_hasChat (hme : IsName me) (user : String) :
    Alike (Agree server me)
      (Resolver.hasChat (acting server (some me)).provider user (.text me)) s s' := by
  rcases hreg : registryIn me s.live with e | reg
  · exact alike_of_outcome (outcome_hasChat_error hme hme.ne_empty user hreg)
      (outcome_hasChat_error hme hme.ne_empty user (h.live.registryIn ▸ hreg)) h
  · have hreg' : registryIn me s'.live = .ok reg := h.live.registryIn ▸ hreg
    refine alike_of_outcome (outcome_hasChat hme h.live.valid hme.ne_empty user hreg)
      ((outcome_hasChat hme h.live.valid' hme.ne_empty user hreg').trans ?_) h
    rw [← h.live.roomsIn]

/-! ### Operations -/

theorem alike_counterparty (handle : String) (purpose : Purpose) :
    Alike (Agree server me)
      (Lifecycle.counterparty (acting server (some me)).provider handle purpose) s s' := by
  refine alike_of_outcome (outcome_counterparty _ _ _) ((outcome_counterparty _ _ _).trans ?_) h
  rw [h.live.counterpartyIn]

theorem alike_owner {α : Type} {f : Value → Action Store α}
    (hf : me ≠ "" → Alike (Agree server me) (f (.text me)) s s') :
    Alike (Agree server me) (Lifecycle.owner (acting server (some me)).provider >>= f) s s' := by
  by_cases hme : me = ""
  · subst hme
    exact alike_of_outcome (outcome_bind_error rfl) (outcome_bind_error rfl) h
  · exact alike_bind_of_ok (outcome_owner hme) (outcome_owner hme) (hf hme)

theorem alike_visibleRoom (chat : String) :
    Alike (Agree server me)
      (Lifecycle.visibleRoom (acting server (some me)).provider chat) s s' := by
  refine (h.alike_room? chat).bind fun room t t' _ _ ht => ?_
  rcases room with _ | room
  · exact alike_throw _ ht
  · exact alike_pure room ht

theorem alike_createChat (handle : String) :
    Alike (Agree server me) (Lifecycle.create (acting server (some me)).provider handle) s s' := by
  refine (h.alike_counterparty handle .chat).bind fun user t t' _ _ ht => ?_
  refine ht.alike_owner fun hne => ?_
  rcases hs : sessionIn (some me) [] with e | name
  · have ho : ∀ s, (Resolver.hasChat (acting server (some me)).provider user (.text me)).outcome s =
        (.error e, s) := fun _ => outcome_hasChat_refused hs (knownOwner_text hne) (by simp) user
    exact alike_of_outcome (outcome_bind_error (ho t)) (outcome_bind_error (ho t')) ht
  · obtain ⟨he, hme, -⟩ := sessionIn_eq_ok_iff.mp hs
    obtain rfl := Option.some.inj he
    refine (ht.alike_hasChat hme user).bind fun held t t' _ _ ht => ?_
    split_ifs
    · exact alike_throw _ ht
    · exact ht.alike_create hme user

theorem alike_accept (chat : String) :
    Alike (Agree server me) (Lifecycle.accept (acting server (some me)).provider chat) s s' := by
  refine h.alike_owner fun _ => ?_
  exact (h.alike_visibleRoom chat).bind fun room t t' _ _ ht => ht.alike_join _ room.id

theorem alike_decline (chat : String) :
    Alike (Agree server me) (Lifecycle.decline (acting server (some me)).provider chat) s s' :=
  (h.alike_visibleRoom chat).bind fun room _ _ _ _ ht => ht.alike_leave room.id

theorem alike_invitations :
    Alike (Agree server me) (Lifecycle.invitations (acting server (some me)).provider) s s' := by
  refine h.alike_owner fun hme => ?_
  refine (h.alike_resolve hme .invited).bind fun rooms t t' _ _ ht => ?_
  exact alike_of_outcome (outcome_inviters rooms) (outcome_inviters rooms) ht

theorem alike_joined :
    Alike (Agree server me) (Lifecycle.joined (acting server (some me)).provider) s s' := by
  refine h.alike_owner fun hme => ?_
  refine (h.alike_resolve hme .joined).bind fun rooms t t' ho _ ht => ?_
  obtain ⟨_, listed, hwho, hr⟩ := exists_resolves ho
  obtain rfl := Option.some.inj hwho
  have hm : ∀ x ∈ rooms, (t.live.member? x.id me).isSome := fun x hx => hr.member?_isSome hx
  have hm' : ∀ x ∈ rooms, (t'.live.member? x.id me).isSome := by
    intro x hx
    rw [← ht.live.member?_self]
    exact hm x hx
  have hroom : ∀ x ∈ rooms, (t.live.room? x.id).isSome := fun x hx =>
    ht.live.valid.room?_isSome_of_member? (hm x hx)
  have hc := outcome_contacts server hr.account fun x hx =>
    ⟨ht.live.valid.isEncodable_of_room? (hroom x hx), hroom x hx, hm x hx⟩
  have hc' := outcome_contacts server hr.account fun x hx =>
    ⟨ht.live.valid.isEncodable_of_room? (hroom x hx),
      ht.live.valid'.room?_isSome_of_member? (hm' x hx), hm' x hx⟩
  refine alike_of_outcome hc (hc'.trans (Prod.ext (mapM_congr fun x hx => ?_) rfl)) ht
  rw [ht.live.membersIn (hm x hx)]

/-- **Every operation of the account is alike in stores that look the same to it.** -/
theorem alike_perform (op : Operation) :
    Alike (Agree server me) (op.perform (acting server (some me)).provider) s s' := by
  cases op with
  | create handle => exact (h.alike_createChat handle).bind fun _ _ _ _ _ ht => alike_pure _ ht
  | accept chat => exact (h.alike_accept chat).bind fun _ _ _ _ _ ht => alike_pure _ ht
  | decline chat => exact (h.alike_decline chat).bind fun _ _ _ _ _ ht => alike_pure _ ht
  | invitations => exact h.alike_invitations.bind fun _ _ _ _ _ ht => alike_pure _ ht
  | joined => exact h.alike_joined.bind fun _ _ _ _ _ ht => alike_pure _ ht
  | block handle =>
    refine Alike.bind ?_ fun _ _ _ _ _ ht => alike_pure _ ht
    exact (h.alike_counterparty handle .block).bind fun user _ _ _ _ ht => ht.alike_block user
  | unblock handle =>
    refine Alike.bind ?_ fun _ _ _ _ _ ht => alike_pure _ ht
    exact (h.alike_counterparty handle .unblock).bind fun user _ _ _ _ ht => ht.alike_unblock user
  | blocked =>
    refine Alike.bind ?_ fun _ _ _ _ _ ht => alike_pure _ ht
    exact h.alike_blockList.bind fun _ _ _ _ _ ht => alike_pure _ ht

end Agree

/-! ### Sequences of operations -/

/-- The replies to the calls of a history. -/
def replies (server : String) : Store → List Call → List (Except Failure Reply)
  | _, [] => []
  | s, c :: calls => c.reply server s :: replies server (c.next server s) calls

theorem Agree.next (h : s.Agree server me s') (op : Operation) :
    (Call.perform (some me) op).reply server s = (Call.perform (some me) op).reply server s' ∧
      ((Call.perform (some me) op).next server s).Agree server me
        ((Call.perform (some me) op).next server s') :=
  (h.alike_perform op).bind fun _ _ _ _ _ ht => alike_pure _ ht

/-- **An account cannot tell apart stores that look the same to it.** Every sequence of its
operations has the same replies in both, and they look the same to it afterwards. -/
theorem agree_after {server me : String} {s s' : Store} (h : s.Agree server me s')
    (ops : List Operation) :
    s.replies server (ops.map (.perform (some me))) =
        s'.replies server (ops.map (.perform (some me))) ∧
      (s.after server (ops.map (.perform (some me)))).Agree server me
        (s'.after server (ops.map (.perform (some me)))) := by
  induction ops generalizing s s' with
  | nil => exact ⟨rfl, h⟩
  | cons op ops ih =>
    obtain ⟨hr, hn⟩ := h.next op
    obtain ⟨hrs, ha⟩ := ih hn
    exact ⟨congrArg₂ List.cons hr hrs, ha⟩

/-- Bob has asked Carol for a chat, or Carol has asked Bob. Alice cannot find out which. -/
theorem agree_after_unseen :
    let pre : List Call := [.register "alice" none, .register "bob" none, .register "carol" none]
    let ask : Call := .perform (some "@alice:localhost") (.create "bob")
    let s := (empty 0 1).after "localhost"
      (pre ++ [.perform (some "@bob:localhost") (.create "carol"), ask])
    let s' := (empty 0 1).after "localhost"
      (pre ++ [.perform (some "@carol:localhost") (.create "bob"), ask])
    let ops : List Operation := [.accept "!room1:localhost", .create "carol", .joined]
    s.live ≠ s'.live ∧ s.Agree "localhost" "@alice:localhost" s' ∧
      s.replies "localhost" (ops.map (.perform (some "@alice:localhost"))) =
        s'.replies "localhost" (ops.map (.perform (some "@alice:localhost"))) := by
  intro pre ask s s' ops
  have hs := (sound_after "localhost" 0 1 (pre ++ [.perform (some "@bob:localhost")
    (.create "carol"), ask])).live
  have hs' := (sound_after "localhost" 0 1 (pre ++ [.perform (some "@carol:localhost")
    (.create "bob"), ask])).live
  have hrows : s.live.users = s'.live.users ∧
      s.live.rooms.filter (fun r => (s.live.member? r.id "@alice:localhost").isSome) =
        s'.live.rooms.filter (fun r => (s'.live.member? r.id "@alice:localhost").isSome) ∧
      s.live.members.filter (fun r => (s.live.member? r.roomId "@alice:localhost").isSome) =
        s'.live.members.filter (fun r => (s'.live.member? r.roomId "@alice:localhost").isSome) ∧
      s.live.documents.filter (·.userId == "@alice:localhost") =
        s'.live.documents.filter (·.userId == "@alice:localhost") ∧
      s.clock = s'.clock ∧ s.nextRoom = s'.nextRoom ∧ s.live ≠ s'.live := by decide +kernel
  obtain ⟨husers, hrooms, hmembers, hdocuments, hclock, hnext, hne⟩ := hrows
  have h : s.Agree "localhost" "@alice:localhost" s' :=
    { live := Tables.agree_of_rows hs.valid hs'.valid husers hrooms hmembers hdocuments
      clock := hclock
      nextRoom := hnext
      free := fun _ hn => hs.room?_roomName hn
      free' := fun _ hn => hs'.room?_roomName hn }
  exact ⟨hne, h, (agree_after h ops).1⟩

end Store

end PairChat
