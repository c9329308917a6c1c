import PairChat.Lifecycle
import PairChat.Proofs.TwoRuns

/-!
# Like providers: what an operation does not tell apart

Two providers are alike if their calls answer the same on states in a relation, and keep the
relation.  No operation tells them apart: `Resolver.paired_resolve_like` for resolution, and
`Operation.paired_perform` for the operations of an account.
-/

namespace PairChat

open PairChat.Action

variable {σ τ α β ι : Type} {R : σ → τ → Prop} {p : Provider σ} {p' : Provider τ}

/-- **The calls of both providers answer the same and keep the relation.** -/
structure Provider.Like (R : σ → τ → Prop) (p : Provider σ) (p' : Provider τ) : Prop where
  account : Paired R Eq p.account p'.account
  homeServer : Paired R Eq p.homeServer p'.homeServer
  userExists : ∀ user, Paired R Eq (p.userExists user) (p'.userExists user)
  create : ∀ user, Paired R Eq (p.create user) (p'.create user)
  room? : ∀ room, Paired R Eq (p.room? room) (p'.room? room)
  join : ∀ user room, Paired R Eq (p.join user room) (p'.join user room)
  leave : ∀ room, Paired R Eq (p.leave room) (p'.leave room)
  rooms : Paired R Eq p.rooms p'.rooms
  members? : ∀ room, Paired R Eq (p.members? room) (p'.members? room)
  registry? : Paired R Eq p.registry? p'.registry?
  block : ∀ user, Paired R Eq (p.block user) (p'.block user)
  unblock : ∀ user, Paired R Eq (p.unblock user) (p'.unblock user)
  blocked : Paired R Eq p.blocked p'.blocked

/-! ### Loops -/

namespace Action

theorem paired_mapM {f : ι → Action σ α} {g : ι → Action τ α}
    (h : ∀ x, Paired R Eq (f x) (g x)) : ∀ l : List ι, Paired R Eq (l.mapM f) (l.mapM g)
  | [] => paired_pure rfl
  | x :: l => by
    rw [List.mapM_cons, List.mapM_cons]
    exact (h x).bind_eq fun _ => (paired_mapM h l).bind_eq fun _ => paired_pure rfl

/-- A failure that is an answer is the same answer. -/
theorem paired_attempt {a : Action σ α} {b : Action τ α} (h : Paired R Eq a b) :
    Paired R Eq (attempt a) (attempt b) :=
  fun s t hR => ⟨.ok (h s t hR).1.eq, (h s t hR).2⟩

theorem paired_forEach {f : ι → Action σ α} {g : ι → Action τ α}
    (h : ∀ x, Paired R Eq (f x) (g x)) (l : List ι) :
    Paired R Eq (forEach l f) (forEach l g) :=
  (paired_mapM (fun x => paired_attempt (h x)) l).bind_eq fun _ => paired_lift_self _

end Action

/-! ### Resolution -/

section Like
variable (h : p.Like R p')
include h

namespace Resolver

theorem paired_fetch : Paired R Eq (fetch p) (fetch p') :=
  (paired_attempt h.rooms).bind_eq fun _ => (paired_attempt h.registry?).bind_eq fun _ =>
    (paired_lift_self _).bind_eq fun _ => (paired_lift_self _).bind_eq fun _ => paired_pure rfl

theorem paired_sweep (copy : List String) (rooms : List Room) :
    Paired R Eq (sweep p copy rooms) (sweep p' copy rooms) := by
  induction rooms generalizing copy with
  | nil => exact paired_pure rfl
  | cons x rooms ih => exact (h.leave x.id).bind_eq fun _ => ih _

/-- **Resolution does not tell like providers apart.** -/
theorem paired_resolve_like (owner : Value) (m : Membership) :
    Paired R Eq (resolve p owner m) (resolve p' owner m) :=
  (paired_lift_self _).bind_eq fun _ => (paired_fetch h).bind_eq fun _ =>
    (paired_lift_self _).bind_eq fun _ => (paired_sweep h _ _).bind_eq fun _ => paired_pure rfl

/-- The search for a chat, once it is said whose. -/
theorem paired_search (counterparty : String) (owner : Value) :
    Paired R Eq
      (do
        let owner ← lift (knownOwner owner)
        let (rooms, registry) ← fetch p
        let listed ← lift (listed registry owner)
        let held ← forEach (rooms.filter fun r => listed.contains r.id) fun room => do
          return holds counterparty (← p.members? room.id)
        return held.any id)
      (do
        let owner ← lift (knownOwner owner)
        let (rooms, registry) ← fetch p'
        let listed ← lift (listed registry owner)
        let held ← forEach (rooms.filter fun r => listed.contains r.id) fun room => do
          return holds counterparty (← p'.members? room.id)
        return held.any id) := by
  refine (paired_lift_self _).bind_eq fun owner => (paired_fetch h).bind_eq fun fetched => ?_
  refine (paired_lift_self _).bind_eq fun listed => ?_
  have heach : ∀ x : Room, Paired R Eq (do return holds counterparty (← p.members? x.id))
      (do return holds counterparty (← p'.members? x.id)) :=
    fun x => (h.members? x.id).bind_eq fun _ => paired_pure rfl
  exact (paired_forEach heach _).bind_eq fun _ => paired_pure rfl

theorem paired_hasChat (counterparty : String) (owner : Value) :
    Paired R Eq (hasChat p counterparty owner) (hasChat p' counterparty owner) := by
  unfold hasChat
  split_ifs
  · exact h.account.bind_eq fun owner => paired_search h counterparty owner
  · exact paired_search h counterparty owner

end Resolver

/-! ### The operations of an account -/

namespace Lifecycle

theorem paired_owner : Paired R Eq (owner p) (owner p') :=
  h.account.bind_eq fun _ => paired_lift_self _

theorem paired_counterparty (handle : String) (purpose : Purpose) :
    Paired R Eq (counterparty p handle purpose) (counterparty p' handle purpose) := by
  refine (paired_lift_self _).bind_eq fun handle => h.homeServer.bind_eq fun server => ?_
  refine (paired_lift_self _).bind_eq fun server => (h.userExists _).bind_eq fun found => ?_
  rcases found with _ | _
  · exact paired_throw _
  · exact paired_pure rfl

theorem paired_create (handle : String) : Paired R Eq (create p handle) (create p' handle) := by
  refine (paired_counterparty h handle .chat).bind_eq fun user => (paired_owner h).bind_eq
    fun me => (Resolver.paired_hasChat h user me).bind_eq fun held => ?_
  rcases held with _ | _
  · exact h.create user
  · exact (paired_throw (Q := Eq) _).bind_eq fun _ => h.create user

theorem paired_visibleRoom (chat : String) :
    Paired R Eq (visibleRoom p chat) (visibleRoom p' chat) := by
  refine (h.room? chat).bind_eq fun room => ?_
  rcases room with _ | room
  · exact paired_throw _
  · exact paired_pure rfl

theorem paired_accept (chat : String) : Paired R Eq (accept p chat) (accept p' chat) := by
  exact (paired_owner h).bind_eq fun me => (paired_visibleRoom h chat).bind_eq fun room =>
    h.join me room.id

theorem paired_decline (chat : String) : Paired R Eq (decline p chat) (decline p' chat) :=
  (paired_visibleRoom h chat).bind_eq fun room => h.leave room.id

theorem paired_invitations : Paired R Eq (invitations p) (invitations p') :=
  (paired_owner h).bind_eq fun me => (Resolver.paired_resolve_like h me .invited).bind_eq fun _ =>
    paired_mapM (fun _ => (paired_lift_self _).bind_eq fun _ => paired_pure rfl) _

theorem paired_joined : Paired R Eq (joined p) (joined p') := by
  refine (paired_owner h).bind_eq fun me => ?_
  refine (Resolver.paired_resolve_like h me .joined).bind_eq fun rooms => paired_forEach ?_ rooms
  exact fun x => (h.members? x.id).bind_eq fun _ =>
    (paired_lift_self _).bind_eq fun _ => paired_pure rfl

theorem paired_block (handle : String) : Paired R Eq (block p handle) (block p' handle) :=
  (paired_counterparty h handle .block).bind_eq fun user => h.block user

theorem paired_unblock (handle : String) : Paired R Eq (unblock p handle) (unblock p' handle) :=
  (paired_counterparty h handle .unblock).bind_eq fun user => h.unblock user

end Lifecycle

/-- **No operation tells like providers apart.** -/
theorem Operation.paired_perform (op : Operation) : Paired R Eq (op.perform p) (op.perform p') := by
  cases op with
  | create handle => exact (Lifecycle.paired_create h handle).bind_eq fun _ => paired_pure rfl
  | accept chat => exact (Lifecycle.paired_accept h chat).bind_eq fun _ => paired_pure rfl
  | decline chat => exact (Lifecycle.paired_decline h chat).bind_eq fun _ => paired_pure rfl
  | invitations => exact (Lifecycle.paired_invitations h).bind_eq fun _ => paired_pure rfl
  | joined => exact (Lifecycle.paired_joined h).bind_eq fun _ => paired_pure rfl
  | block handle => exact (Lifecycle.paired_block h handle).bind_eq fun _ => paired_pure rfl
  | unblock handle => exact (Lifecycle.paired_unblock h handle).bind_eq fun _ => paired_pure rfl
  | blocked => exact h.blocked.bind_eq fun _ => paired_pure rfl

end Like

end PairChat
