import PairChat.Failure

/-!
# Actions: operations on a state that may fail

An action takes a state to an answer or a failure, and to the state it leaves.  What an action
changed before it failed stays changed: nothing is rolled back.
-/

namespace PairChat

/-- An operation on states `σ` with answers `α`. -/
abbrev Action (σ : Type) : Type → Type := ExceptT Failure (StateM σ)

namespace Action

variable {σ τ α β : Type}

/-- The outcome of an action on a state, and the state it leaves. -/
def outcome (a : Action σ α) (s : σ) : Except Failure α × σ := (a.run).run s

/-- The action with a given outcome. -/
def ofOutcome (f : σ → Except Failure α × σ) : Action σ α := ExceptT.mk fun s => f s

/-- An action that leaves the state alone. -/
def lift (r : Except Failure α) : Action σ α := ofOutcome fun s => (r, s)

/-- The state. -/
def getState : Action σ σ := ofOutcome fun s => (.ok s, s)

/-- The action that replaces the state. -/
def setState (s : σ) : Action σ Unit := ofOutcome fun _ => (.ok (), s)

/-- An action whose failure is an answer. -/
def attempt (a : Action σ α) : Action σ (Except Failure α) :=
  ofOutcome fun s => let (r, s) := a.outcome s; (.ok r, s)

/-- An action with some failures replaced. -/
def recover (a : Action σ α) (f : Failure → Except Failure α) : Action σ α :=
  ofOutcome fun s => match a.outcome s with
    | (.error e, s) => (f e, s)
    | r => r

/-- The answers for all items. All are tried in order, and the first failure is that of the
whole. -/
def forEach (items : List α) (f : α → Action σ β) : Action σ (List β) := do
  let results ← items.mapM fun x => attempt (f x)
  lift (results.mapM id)

/-- An action on a part of a larger state. -/
def within (get : τ → σ) (set : σ → τ → τ) (a : Action σ α) : Action τ α :=
  ofOutcome fun t => let (r, s) := a.outcome (get t); (r, set s t)

end Action

end PairChat
