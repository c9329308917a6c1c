import PairChat.Provider.Script
import PairChat.Proofs.LikeProviders

/-!
# Noted calls: what a provider is asked to do

`Provider.noted` is a provider that notes every call before it is carried out, those that fail
included, and otherwise does what the provider does.  So what an operation asks of a provider can be
read off its state, whatever the provider answers.

* `noted_unseen`: **operations answer and leave the same with their calls noted.**
* `outcome_note`: the outcome of one noted call.
* `outcome_forEach_note`: the outcome of noted calls for the items of a list, all of which are made.
-/

namespace PairChat

open PairChat.Action

variable {σ α β ι : Type}

/-- Is the call made to change something? -/
def ProviderCall.isWrite : ProviderCall → Bool
  | .create _ | .join .. | .leave _ | .block _ | .unblock _ => true
  | .account | .userExists _ | .room _ | .rooms | .members _ | .registry | .blocked => false

/-- Note a call, and then carry it out. -/
def note (call : ProviderCall) (a : Action σ α) : Action (σ × List ProviderCall) α :=
  ofOutcome fun (s, calls) => ((a.outcome s).1, (a.outcome s).2, calls ++ [call])

/-- **The provider, with every call noted.** The home server is no call: it is a part of what the
provider is. -/
def Provider.noted (p : Provider σ) : Provider (σ × List ProviderCall) where
  account := note .account p.account
  homeServer := within Prod.fst (fun s t => (s, t.2)) p.homeServer
  userExists user := note (.userExists user) (p.userExists user)
  create user := note (.create user) (p.create user)
  room? room := note (.room room) (p.room? room)
  join user room := note (.join user room) (p.join user room)
  leave room := note (.leave room) (p.leave room)
  rooms := note .rooms p.rooms
  members? room := note (.members room) (p.members? room)
  registry? := note .registry p.registry?
  block user := note (.block user) (p.block user)
  unblock user := note (.unblock user) (p.unblock user)
  blocked := note .blocked p.blocked

variable {s : σ} {calls : List ProviderCall}

theorem outcome_note (call : ProviderCall) (a : Action σ α) :
    (note call a).outcome (s, calls) =
      ((a.outcome s).1, (a.outcome s).2, calls ++ [call]) := rfl

/-! ### Noting changes nothing -/

theorem paired_note (call : ProviderCall) (a : Action σ α) :
    Paired (fun (s : σ × List ProviderCall) t => s.1 = t) Eq (note call a) a := by
  rintro ⟨s, calls⟩ _ rfl
  exact ⟨matched_refl _, rfl⟩

theorem like_noted (p : Provider σ) :
    p.noted.Like (fun (s : σ × List ProviderCall) t => s.1 = t) p where
  account := paired_note _ _
  homeServer := by
    rintro ⟨s, calls⟩ _ rfl
    exact ⟨matched_refl _, rfl⟩
  userExists _ := paired_note _ _
  create _ := paired_note _ _
  room? _ := paired_note _ _
  join _ _ := paired_note _ _
  leave _ := paired_note _ _
  rooms := paired_note _ _
  members? _ := paired_note _ _
  registry? := paired_note _ _
  block _ := paired_note _ _
  unblock _ := paired_note _ _
  blocked := paired_note _ _

/-- What is answered and left is seen from the run with noted calls. -/
theorem outcome_of_noted {a : Action (σ × List ProviderCall) α} {b : Action σ α}
    (h : Paired (fun (s : σ × List ProviderCall) t => s.1 = t) Eq a b) (s : σ)
    (calls : List ProviderCall) :
    b.outcome s = ((a.outcome (s, calls)).1, (a.outcome (s, calls)).2.1) := by
  obtain ⟨hr, hs⟩ := h (s, calls) s rfl
  exact Prod.ext hr.eq.symm hs.symm

/-- **An operation answers and leaves the same with its calls noted.** -/
theorem noted_unseen (p : Provider σ) (op : Operation) (s : σ) (calls : List ProviderCall) :
    (op.perform p).outcome s = (((op.perform p.noted).outcome (s, calls)).1,
      ((op.perform p.noted).outcome (s, calls)).2.1) :=
  outcome_of_noted (Operation.paired_perform (like_noted p) op) s calls

/-! ### What is asked for -/

section Reads
variable (call : ι → ProviderCall) (read : ι → Action σ α) (f : α → β)

/-- Noted calls for a list of items: all of them are made, and none of them stops the others. -/
theorem outcome_mapM_note (l : List ι) (s : σ) (calls : List ProviderCall) :
    (l.mapM fun x => attempt (do return f (← note (call x) (read x)))).outcome (s, calls) =
      (.ok ((log read s l).map (·.map f)), after read s l, calls ++ l.map call) := by
  induction l generalizing s calls with
  | nil => simp [log, after]
  | cons x l ih =>
    have hx : (do return f (← note (call x) (read x))).outcome (s, calls) =
        ((((read x).outcome s).1).map f, ((read x).outcome s).2, calls ++ [call x]) :=
      outcome_bind_pure f (outcome_note (call x) (read x))
    rw [List.mapM_cons, outcome_bind, outcome_attempt, hx]
    dsimp only
    rw [outcome_bind_ok (ih _ _), outcome_pure, List.append_assoc]
    rfl

theorem outcome_forEach_note (l : List ι) (s : σ) (calls : List ProviderCall) :
    (forEach l fun x => do return f (← note (call x) (read x))).outcome (s, calls) =
      ((log read s l).mapM (·.map f), after read s l, calls ++ l.map call) := by
  rw [forEach, outcome_bind_ok (outcome_mapM_note call read f l s calls), outcome_lift,
    mapM_map_id]

end Reads

/-- The rooms and the registry are both asked for, whatever becomes of either. -/
theorem Resolver.outcome_fetch_noted (p : Provider σ) (s : σ) (calls : List ProviderCall) :
    let rooms := p.rooms.outcome s
    let registry := p.registry?.outcome rooms.2
    (Resolver.fetch p.noted).outcome (s, calls) =
      ((do return (← rooms.1, (← registry.1).getD [])), registry.2,
        calls ++ [.rooms, .registry]) := by
  intro rooms registry
  have hrooms : p.noted.rooms.outcome (s, calls) = (rooms.1, rooms.2, calls ++ [.rooms]) := rfl
  have hreg : p.noted.registry?.outcome (rooms.2, calls ++ [.rooms]) =
      (registry.1, registry.2, calls ++ [.rooms, .registry]) := by
    show _ = (_, _, calls ++ ([.rooms] ++ [.registry]))
    rw [← List.append_assoc]
    rfl
  simp only [Resolver.fetch, outcome_bind, outcome_attempt, hrooms, hreg, outcome_lift]
  rcases rooms.1 with e | all
  · rfl
  · rcases registry.1 with e | reg <;> rfl

end PairChat
