import PairChat.Proofs.Outcome
import Mathlib.Data.List.Forall2

/-!
# Two runs side by side

Two actions, each on states of its own, are `Paired` if they keep a relation between their states
and their answers are in a relation too, or they fail alike.  This goes through `>>=` and through
loops over lists that match item by item, so two programs are paired if their statements are.

For runs, `log` is what is answered and `after` is the state that is reached.  Where every step is
paired, the logs are equal (`log_eq_of_paired`).
-/

namespace PairChat.Action

variable {σ τ α β α' β' ι : Type}

/-! ### Answers -/

/-- Two answers in a relation, or the same failure twice. -/
inductive Matched (Q : α → β → Prop) : Except Failure α → Except Failure β → Prop
  | ok {x y} (h : Q x y) : Matched Q (.ok x) (.ok y)
  | error (e) : Matched Q (.error e) (.error e)

section Matched
variable {Q : α → β → Prop} {Q' : α' → β' → Prop} {r : Except Failure α} {r' : Except Failure β}

theorem matched_refl (r : Except Failure α) : Matched Eq r r := by
  rcases r with e | x
  · exact .error e
  · exact .ok rfl

theorem Matched.eq {r r' : Except Failure α} (h : Matched Eq r r') : r = r' := by
  cases h with
  | ok h => rw [h]
  | error e => rfl

theorem Matched.bind {f : α → Except Failure α'} {g : β → Except Failure β'}
    (h : Matched Q r r') (hf : ∀ x y, Q x y → Matched Q' (f x) (g y)) :
    Matched Q' (r >>= f) (r' >>= g) := by
  cases h with
  | ok h => exact hf _ _ h
  | error e => exact .error e

theorem Matched.map {f : α → α'} {g : β → β'} (h : Matched Q r r')
    (hf : ∀ x y, Q x y → Q' (f x) (g y)) : Matched Q' (r.map f) (r'.map g) := by
  cases h with
  | ok h => exact .ok (hf _ _ h)
  | error e => exact .error e

theorem matched_mapM {f : α → Except Failure α'} {g : β → Except Failure β'}
    (hf : ∀ x y, Q x y → Matched Q' (f x) (g y)) {xs : List α} {ys : List β}
    (h : List.Forall₂ Q xs ys) : Matched (List.Forall₂ Q') (xs.mapM f) (ys.mapM g) := by
  induction h with
  | nil => exact .ok .nil
  | cons hxy _ ih =>
    rw [List.mapM_cons, List.mapM_cons]
    exact (hf _ _ hxy).bind fun _ _ hx => ih.bind fun _ _ hxs => .ok (.cons hx hxs)

end Matched

/-! ### Actions -/

/-- **Both actions keep the relation between their states, and their answers match.** -/
def Paired (R : σ → τ → Prop) (Q : α → β → Prop) (a : Action σ α) (b : Action τ β) : Prop :=
  ∀ s t, R s t → Matched Q (a.outcome s).1 (b.outcome t).1 ∧ R (a.outcome s).2 (b.outcome t).2

section Paired
variable {R : σ → τ → Prop} {Q : α → β → Prop} {Q' : α' → β' → Prop}
  {a : Action σ α} {b : Action τ β}

theorem Paired.fst_eq {b : Action τ α} {s : σ} {t : τ} (h : Paired R Eq a b) (hR : R s t) :
    (a.outcome s).1 = (b.outcome t).1 := (h s t hR).1.eq

theorem paired_lift {r : Except Failure α} {r' : Except Failure β} (h : Matched Q r r') :
    Paired R Q (lift r) (lift r') := fun _ _ hR => ⟨h, hR⟩

theorem paired_lift_self (r : Except Failure α) :
    Paired R Eq (lift r : Action σ α) (lift r : Action τ α) := paired_lift (matched_refl r)

theorem paired_pure {x : α} {y : β} (h : Q x y) :
    Paired R Q (pure x : Action σ α) (pure y : Action τ β) := fun _ _ hR => ⟨.ok h, hR⟩

theorem paired_throw (e : Failure) :
    Paired R Q (throw e : Action σ α) (throw e : Action τ β) := fun _ _ hR => ⟨.error e, hR⟩

theorem paired_getState : Paired R R (getState : Action σ σ) (getState : Action τ τ) :=
  fun _ _ hR => ⟨.ok hR, hR⟩

theorem Paired.bind {f : α → Action σ α'} {g : β → Action τ β'} (h : Paired R Q a b)
    (hf : ∀ x y, Q x y → Paired R Q' (f x) (g y)) : Paired R Q' (a >>= f) (b >>= g) := by
  intro s t hR
  obtain ⟨hr, hR'⟩ := h s t hR
  rcases ho : a.outcome s with ⟨r, s'⟩
  rcases ho' : b.outcome t with ⟨r', t'⟩
  rw [ho, ho'] at hr hR'
  rw [outcome_bind, outcome_bind, ho, ho']
  cases hr with
  | ok hxy => exact hf _ _ hxy s' t' hR'
  | error e => exact ⟨.error e, hR'⟩

/-- The first actions have the same answer. -/
theorem Paired.bind_eq {b : Action τ α} {f : α → Action σ α'} {g : α → Action τ β'}
    (h : Paired R Eq a b) (hf : ∀ x, Paired R Q' (f x) (g x)) :
    Paired R Q' (a >>= f) (b >>= g) := by
  refine h.bind ?_
  rintro x _ rfl
  exact hf x

theorem Paired.attempt (h : Paired R Q a b) : Paired R (Matched Q) (attempt a) (attempt b) :=
  fun s t hR => ⟨.ok (h s t hR).1, (h s t hR).2⟩

theorem Paired.recover {b : Action τ α} (h : Paired R Eq a b) (f : Failure → Except Failure α) :
    Paired R Eq (recover a f) (recover b f) := by
  intro s t hR
  obtain ⟨hr, hR'⟩ := h s t hR
  rcases ho : a.outcome s with ⟨r, s'⟩
  rcases ho' : b.outcome t with ⟨r', t'⟩
  rw [ho, ho'] at hr hR'
  rw [outcome_recover, outcome_recover, ho, ho']
  cases hr with
  | ok hxy => exact ⟨.ok hxy, hR'⟩
  | error e => exact ⟨matched_refl _, hR'⟩

/-- Two loops over lists that match item by item. -/
theorem paired_forM {P : ι → ι → Prop} {f : ι → Action σ Unit} {g : ι → Action τ Unit}
    (hf : ∀ x y, P x y → Paired R Eq (f x) (g y)) {xs ys : List ι} (h : List.Forall₂ P xs ys) :
    Paired R Eq (xs.forM f) (ys.forM g) := by
  induction h with
  | nil => exact paired_pure rfl
  | cons hxy _ ih => exact (hf _ _ hxy).bind_eq fun _ => ih

end Paired

/-! ### Runs -/

/-- What the steps of a run answer, or how they fail. -/
def log (run : ι → Action σ α) : σ → List ι → List (Except Failure α)
  | _, [] => []
  | s, x :: xs => ((run x).outcome s).1 :: log run ((run x).outcome s).2 xs

/-- The state after the steps of a run. -/
def after (run : ι → Action σ α) : σ → List ι → σ
  | s, [] => s
  | s, x :: xs => after run ((run x).outcome s).2 xs

/-- **Where every step is paired, the runs answer the same.** -/
theorem log_eq_of_paired {R : σ → τ → Prop} {run : ι → Action σ α} {run' : ι → Action τ α}
    {s : σ} {t : τ} (hR : R s t) (xs : List ι) (h : ∀ x ∈ xs, Paired R Eq (run x) (run' x)) :
    log run s xs = log run' t xs ∧ R (after run s xs) (after run' t xs) := by
  induction xs generalizing s t with
  | nil => exact ⟨rfl, hR⟩
  | cons x xs ih =>
    obtain ⟨hr, hR'⟩ := h x List.mem_cons_self s t hR
    obtain ⟨hlog, hafter⟩ := ih hR' fun y hy => h y (List.mem_cons_of_mem x hy)
    exact ⟨congrArg₂ List.cons hr.eq hlog, hafter⟩

end PairChat.Action
