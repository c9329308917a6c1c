import PairChat.Action
import Mathlib.Tactic.SplitIfs

/-!
# Outcomes: what an action does to a state

One equation for each way of building actions: `outcome_bind` runs the second action on the answer
and the state of the first, and the others say what a single action answers and leaves.  For lists
of actions:

* `outcome_forM`: actions that always have an answer are a fold over the states;
* `outcome_mapM_of_fixed`, `outcome_forEach_of_fixed`: actions that leave the state alone answer
  with the list of their answers, or with the first failure.
-/

namespace PairChat.Action

variable {σ τ α β : Type}

@[simp] theorem outcome_pure (x : α) (s : σ) : (pure x : Action σ α).outcome s = (.ok x, s) := rfl

@[simp] theorem outcome_throw (e : Failure) (s : σ) :
    (throw e : Action σ α).outcome s = (.error e, s) := rfl

@[simp] theorem outcome_lift (r : Except Failure α) (s : σ) :
    (lift r : Action σ α).outcome s = (r, s) := rfl

theorem outcome_ofOutcome (f : σ → Except Failure α × σ) (s : σ) :
    (ofOutcome f).outcome s = f s := rfl

@[simp] theorem outcome_getState (s : σ) : (getState : Action σ σ).outcome s = (.ok s, s) := rfl

@[simp] theorem outcome_setState (s t : σ) :
    (setState t : Action σ Unit).outcome s = (.ok (), t) := rfl

@[simp] theorem outcome_attempt (a : Action σ α) (s : σ) :
    (attempt a).outcome s = (.ok (a.outcome s).1, (a.outcome s).2) := rfl

theorem outcome_bind (a : Action σ α) (f : α → Action σ β) (s : σ) :
    (a >>= f).outcome s = match a.outcome s with
      | (.ok x, t) => (f x).outcome t
      | (.error e, t) => (.error e, t) := by
  show (ExceptT.bindCont f (a s).1) (a s).2 = _
  simp only [outcome, ExceptT.run, StateT.run]
  rcases a s with ⟨_ | _, _⟩ <;> rfl

theorem outcome_recover (a : Action σ α) (f : Failure → Except Failure α) (s : σ) :
    (recover a f).outcome s = match a.outcome s with
      | (.error e, t) => (f e, t)
      | r => r := rfl

theorem outcome_within (get : τ → σ) (set : σ → τ → τ) (a : Action σ α) (t : τ) :
    (within get set a).outcome t = ((a.outcome (get t)).1, set (a.outcome (get t)).2 t) := rfl

/-- An action whose result is only wrapped. -/
theorem outcome_bind_pure {x : Action σ α} {r : Except Failure α} {s s' : σ} (g : α → β)
    (h : x.outcome s = (r, s')) : (x >>= fun a => pure (g a)).outcome s = (r.map g, s') := by
  rw [outcome_bind, h]
  rcases r with e | a <;> rfl

theorem outcome_bind_ok {a : Action σ α} {f : α → Action σ β} {s t : σ} {x : α}
    (h : a.outcome s = (.ok x, t)) : (a >>= f).outcome s = (f x).outcome t := by
  rw [outcome_bind, h]

theorem outcome_bind_error {a : Action σ α} {f : α → Action σ β} {s t : σ} {e : Failure}
    (h : a.outcome s = (.error e, t)) : (a >>= f).outcome s = (.error e, t) := by
  rw [outcome_bind, h]

theorem exists_of_bind_eq_ok {ε : Type} {x : Except ε α} {f : α → Except ε β} {y : β}
    (h : x >>= f = .ok y) : ∃ a, x = .ok a ∧ f a = .ok y := by
  rcases x with e | a
  · cases h
  · exact ⟨a, rfl, h⟩

/-- **A chain that has an answer is taken apart.** -/
theorem exists_of_outcome_bind {a : Action σ α} {f : α → Action σ β} {s t : σ} {y : β}
    (h : (a >>= f).outcome s = (.ok y, t)) :
    ∃ x s', a.outcome s = (.ok x, s') ∧ (f x).outcome s' = (.ok y, t) := by
  rw [outcome_bind] at h
  rcases ha : a.outcome s with ⟨e | x, s'⟩ <;> rw [ha] at h
  · cases h
  · exact ⟨x, s', rfl, h⟩

/-- The action only looks at the state. -/
def IsRead (a : Action σ α) : Prop := ∀ s, (a.outcome s).2 = s

theorem IsRead.outcome_eq {a : Action σ α} (ha : a.IsRead) {s : σ} {r : Except Failure α}
    (h : (a.outcome s).1 = r) : a.outcome s = (r, s) := Prod.ext h (ha s)

theorem isRead_pure (x : α) : (pure x : Action σ α).IsRead := fun _ => rfl

theorem isRead_throw (e : Failure) : (throw e : Action σ α).IsRead := fun _ => rfl

theorem isRead_lift (r : Except Failure α) : (lift r : Action σ α).IsRead := fun _ => rfl

theorem isRead_getState : (getState : Action σ σ).IsRead := fun _ => rfl

theorem IsRead.bind {a : Action σ α} {f : α → Action σ β} (ha : a.IsRead)
    (hf : ∀ x, (f x).IsRead) : (a >>= f).IsRead := by
  intro s
  have hs := ha s
  rw [outcome_bind]
  rcases h : a.outcome s with ⟨e | x, s'⟩ <;> rw [h] at hs
  · exact hs
  · obtain rfl : s' = s := hs
    exact hf x s'

theorem IsRead.exists_of_outcome_bind {a : Action σ α} {f : α → Action σ β} (ha : a.IsRead)
    {s t : σ} {y : β} (h : (a >>= f).outcome s = (.ok y, t)) :
    ∃ x, a.outcome s = (.ok x, s) ∧ (f x).outcome s = (.ok y, t) := by
  obtain ⟨x, s', hx, hf⟩ := Action.exists_of_outcome_bind h
  have hs := ha s
  rw [hx] at hs
  obtain rfl : s' = s := hs
  exact ⟨x, hx, hf⟩

/-! ### Lists of actions -/

/-- Actions that keep `P` and have an answer wherever it holds are a fold over the states. -/
theorem outcome_forM {f : α → Action σ Unit} {g : σ → α → σ} {P : σ → α → Prop}
    (hf : ∀ s x, P s x → (f x).outcome s = (.ok (), g s x))
    (hP : ∀ s x y, P s x → P s y → P (g s x) y) :
    ∀ (l : List α) (s : σ), (∀ x ∈ l, P s x) → (l.forM f).outcome s = (.ok (), l.foldl g s)
  | [], _, _ => rfl
  | x :: l, s, h => by
    have hx := h x List.mem_cons_self
    have ih := outcome_forM hf hP l (g s x) fun y hy =>
      hP s x y hx (h y (List.mem_cons_of_mem x hy))
    show (f x >>= fun _ => l.forM f).outcome s = _
    rw [outcome_bind_ok (hf s x hx)]
    exact ih

/-- Items are gone through until the first one that fails. -/
theorem outcome_forM_error {f : α → Action σ Unit} {before : List α} {x : α} {s t u : σ}
    {e : Failure} (hbefore : (before.forM f).outcome s = (.ok (), t))
    (hx : (f x).outcome t = (.error e, u)) (after : List α) :
    ((before ++ x :: after).forM f).outcome s = (.error e, u) := by
  refine (congrArg (fun a => outcome a s) List.forM_append).trans ?_
  exact (outcome_bind_ok hbefore).trans (outcome_bind_error hx)

theorem isRead_mapM {f : α → Action σ β} (hf : ∀ x, (f x).IsRead) :
    ∀ l : List α, (l.mapM f).IsRead
  | [] => isRead_pure []
  | x :: l => by
    rw [List.mapM_cons]
    exact (hf x).bind fun _ => (isRead_mapM hf l).bind fun _ => isRead_pure _

theorem outcome_mapM_of_fixed {f : α → Action σ β} {g : α → Except Failure β} {s : σ} :
    ∀ (l : List α), (∀ x ∈ l, (f x).outcome s = (g x, s)) →
      (l.mapM f).outcome s = (l.mapM g, s)
  | [], _ => rfl
  | x :: l, h => by
    have ih := outcome_mapM_of_fixed l fun y hy => h y (List.mem_cons_of_mem x hy)
    have hx := h x List.mem_cons_self
    rw [List.mapM_cons, List.mapM_cons]
    rcases hg : g x with e | y
    · rw [outcome_bind_error (hx.trans (by rw [hg]))]
      rfl
    · rw [outcome_bind_ok (hx.trans (by rw [hg]))]
      rcases hl : l.mapM g with e | ys
      · rw [outcome_bind_error (ih.trans (by rw [hl]))]
        rfl
      · rw [outcome_bind_ok (ih.trans (by rw [hl]))]
        rfl

theorem mapM_ok {ε : Type} (g : α → β) :
    ∀ l : List α, (l.mapM fun x => (.ok (g x) : Except ε β)) = .ok (l.map g)
  | [] => rfl
  | x :: l => by
    rw [List.mapM_cons, mapM_ok g l]
    rfl

theorem mapM_map_id {ε : Type} (g : α → Except ε β) :
    ∀ l : List α, (l.map g).mapM id = l.mapM g
  | [] => rfl
  | x :: l => by
    rw [List.map_cons, List.mapM_cons, List.mapM_cons, mapM_map_id g l]
    rfl

theorem mapM_congr {ε : Type} {g g' : α → Except ε β} {l : List α} (h : ∀ x ∈ l, g x = g' x) :
    l.mapM g = l.mapM g' := by
  rw [← mapM_map_id g, ← mapM_map_id g', List.map_congr_left h]

/-- Where every item has a result with its key, there is a list of results with the same keys. -/
theorem exists_mapM_eq_ok {ε κ : Type} {f : α → Except ε β} (key : β → κ) (key' : α → κ)
    (P : β → Prop) :
    ∀ l : List α, (∀ x ∈ l, ∃ y, f x = .ok y ∧ key y = key' x ∧ P y) →
      ∃ ys, l.mapM f = .ok ys ∧ ys.map key = l.map key' ∧ ∀ y ∈ ys, P y
  | [], _ => ⟨[], rfl, rfl, fun _ h => absurd h List.not_mem_nil⟩
  | x :: l, h => by
    obtain ⟨y, hy, hkey, hp⟩ := h x List.mem_cons_self
    obtain ⟨ys, hys, hkeys, hps⟩ :=
      exists_mapM_eq_ok key key' P l fun z hz => h z (List.mem_cons_of_mem x hz)
    refine ⟨y :: ys, ?_, by rw [List.map_cons, List.map_cons, hkey, hkeys], ?_⟩
    · rw [List.mapM_cons, hy, hys]
      rfl
    · intro z hz
      rcases List.mem_cons.mp hz with rfl | hz
      · exact hp
      · exact hps z hz

/-- Where all failures are the same, one of them is the failure of the list. -/
theorem mapM_eq_error {ε : Type} {f : α → Except ε β} {e : ε} :
    ∀ l : List α, (∀ x ∈ l, f x = .error e ∨ ∃ y, f x = .ok y) → (∃ x ∈ l, f x = .error e) →
      l.mapM f = .error e
  | [], _, h => by simp at h
  | x :: l, hall, h => by
    rw [List.mapM_cons]
    rcases hall x List.mem_cons_self with hx | ⟨y, hy⟩
    · rw [hx]
      rfl
    · obtain ⟨z, hz, he⟩ := h
      have hzl : z ∈ l := by
        rcases List.mem_cons.mp hz with rfl | hz
        · cases hy.symm.trans he
        · exact hz
      rw [hy, mapM_eq_error l (fun w hw => hall w (List.mem_cons_of_mem x hw)) ⟨z, hzl, he⟩]
      rfl

/-- The first failure is that of the list. -/
theorem mapM_eq_error_of_append {ε : Type} {f : α → Except ε β} {x : α} {e : ε}
    (hx : f x = .error e) (rest : List α) :
    ∀ before : List α, (∀ y ∈ before, ∃ z, f y = .ok z) → (before ++ x :: rest).mapM f = .error e
  | [], _ => by
    rw [List.nil_append, List.mapM_cons, hx]
    rfl
  | y :: before, h => by
    obtain ⟨z, hz⟩ := h y List.mem_cons_self
    have ih := mapM_eq_error_of_append hx rest before fun w hw => h w (List.mem_cons_of_mem y hw)
    rw [List.cons_append, List.mapM_cons, hz, ih]
    rfl

/-- The failure of a list is that of one of its items. -/
theorem exists_of_mapM_eq_error {ε : Type} {f : α → Except ε β} {e : ε} :
    ∀ l : List α, l.mapM f = .error e → ∃ x ∈ l, f x = .error e
  | [], h => by cases h
  | x :: l, h => by
    rw [List.mapM_cons] at h
    rcases hx : f x with e' | y
    · rw [hx] at h
      cases h
      exact ⟨x, List.mem_cons_self, hx⟩
    · rcases hl : l.mapM f with e' | ys
      · rw [hx, hl] at h
        cases h
        obtain ⟨z, hz, he⟩ := exists_of_mapM_eq_error l hl
        exact ⟨z, List.mem_cons_of_mem x hz, he⟩
      · rw [hx, hl] at h
        cases h

theorem outcome_forEach_of_fixed {f : α → Action σ β} {g : α → Except Failure β} {s : σ}
    (l : List α) (h : ∀ x ∈ l, (f x).outcome s = (g x, s)) :
    (forEach l f).outcome s = (l.mapM g, s) := by
  have ha : ∀ x ∈ l, (attempt (f x)).outcome s = (.ok (g x), s) := by
    intro x hx
    rw [outcome_attempt, h x hx]
  have hm : (l.mapM fun x => attempt (f x)).outcome s = (.ok (l.map g), s) := by
    rw [outcome_mapM_of_fixed l ha, mapM_ok]
  unfold forEach
  rw [outcome_bind_ok hm, outcome_lift, mapM_map_id]

end PairChat.Action
