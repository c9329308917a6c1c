import PairChat.Registry
import Mathlib.Data.List.Nodup
import Mathlib.Tactic.SplitIfs

/-!
# Registry updates: nothing is lost

A room enters a registry under its owner (`Registry.Enters`): every account keeps its place and its
rooms, and the owner has one more room at the end of theirs.  A room that was joined leaves the
others alone (`enters_addJoined`); a room that was made is taken from them (`enters_addCreated`).
-/

namespace PairChat.Registry

variable {ρ : Type} {reg : Registry ρ} {user owner : String} {room : ρ} {rooms : List ρ}

/-- The accounts that have rooms listed under them, in order. -/
def accounts (reg : Registry ρ) : List String := reg.map (·.1)

/-- The room has entered the registry under its owner, in the old place or at the end; `kept` are
the rooms that are still listed under any other account. -/
structure Enters [DecidableEq ρ] (owner : String) (room : ρ) (kept : List ρ → List ρ)
    (old new : Registry ρ) : Prop where
  accounts : new.accounts =
    if owner ∈ old.accounts then old.accounts else old.accounts ++ [owner]
  own : new.roomsOf owner =
    if room ∈ old.roomsOf owner then old.roomsOf owner else old.roomsOf owner ++ [room]
  others : ∀ user, user ≠ owner → new.roomsOf user = kept (old.roomsOf user)

@[simp] theorem accounts_cons (u : String) (rs : List ρ) :
    accounts ((u, rs) :: reg) = u :: reg.accounts := rfl

@[simp] theorem roomsOf_nil : roomsOf ([] : Registry ρ) user = [] := rfl

theorem roomsOf_cons (u : String) (rs : List ρ) :
    roomsOf ((u, rs) :: reg) user = if u = user then rs else reg.roomsOf user := by
  unfold roomsOf
  rw [List.lookup_cons]
  by_cases hu : u = user
  · simp [hu]
  · simp [hu, beq_false_of_ne (Ne.symm hu)]

theorem mem_accounts_of_mem_roomsOf (h : room ∈ reg.roomsOf user) : user ∈ reg.accounts := by
  induction reg with
  | nil => simp at h
  | cons x reg ih =>
    obtain ⟨u, rs⟩ := x
    rw [accounts_cons, List.mem_cons]
    by_cases hu : u = user
    · exact .inl hu.symm
    · rw [roomsOf_cons, if_neg hu] at h
      exact .inr (ih h)

/-! ### Replacing the rooms of one account -/

theorem accounts_put : (reg.put user rooms).accounts =
    if user ∈ reg.accounts then reg.accounts else reg.accounts ++ [user] := by
  induction reg with
  | nil => rfl
  | cons x reg ih =>
    obtain ⟨u, rs⟩ := x
    by_cases hu : u = user
    · simp [put, hu]
    · simp only [put, if_neg hu, accounts_cons, ih, List.mem_cons, Ne.symm hu, false_or]
      split_ifs <;> rfl

theorem roomsOf_put_self : (reg.put user rooms).roomsOf user = rooms := by
  induction reg with
  | nil => simp [put, roomsOf_cons]
  | cons x reg ih =>
    obtain ⟨u, rs⟩ := x
    by_cases hu : u = user
    · simp [put, hu, roomsOf_cons]
    · simp [put, hu, roomsOf_cons, ih]

theorem roomsOf_put_of_ne {other : String} (ho : other ≠ user) :
    (reg.put user rooms).roomsOf other = reg.roomsOf other := by
  induction reg with
  | nil => simp [put, roomsOf_cons, Ne.symm ho]
  | cons x reg ih =>
    obtain ⟨u, rs⟩ := x
    by_cases hu : u = user
    · simp [put, hu, roomsOf_cons, Ne.symm ho]
    · simp [put, hu, roomsOf_cons, ih]

/-! ### Withdrawing a room -/

section Rooms
variable [DecidableEq ρ]

theorem accounts_withdraw : (reg.withdraw owner room).accounts = reg.accounts := by
  unfold accounts withdraw
  rw [List.map_map]
  refine List.map_congr_left fun x _ => ?_
  dsimp only [Function.comp_apply]
  split_ifs <;> rfl

theorem roomsOf_withdraw : (reg.withdraw owner room).roomsOf user =
    if user = owner then reg.roomsOf user else (reg.roomsOf user).filter (· ≠ room) := by
  induction reg with
  | nil => simp [withdraw]
  | cons x reg ih =>
    obtain ⟨u, rs⟩ := x
    have hcons : withdraw ((u, rs) :: reg) owner room =
        (if u = owner then (u, rs) else (u, rs.filter (· ≠ room))) ::
          withdraw reg owner room := rfl
    rw [hcons]
    by_cases hu : u = user
    · subst hu
      split_ifs with howner <;> simp [roomsOf_cons]
    · split_ifs at ih ⊢ <;> simp [roomsOf_cons, hu, ih]

/-! ### Entering a room -/

theorem addJoined_changed_iff : (reg.addJoined owner room).2 = true ↔ room ∉ reg.roomsOf owner := by
  unfold addJoined
  by_cases hroom : room ∈ reg.roomsOf owner <;> simp [hroom]

/-- **A room that was joined enters the registry**, and the others keep all their rooms. -/
theorem enters_addJoined (reg : Registry ρ) (owner : String) (room : ρ) :
    Enters owner room id reg (reg.addJoined owner room).1 := by
  by_cases hroom : room ∈ reg.roomsOf owner
  · have hsame : (reg.addJoined owner room).1 = reg := by simp [addJoined, hroom]
    rw [hsame]
    exact ⟨(if_pos (mem_accounts_of_mem_roomsOf hroom)).symm, (if_pos hroom).symm,
      fun _ _ => rfl⟩
  · have hput : (reg.addJoined owner room).1 = reg.put owner (reg.roomsOf owner ++ [room]) := by
      simp [addJoined, hroom]
    rw [hput]
    exact ⟨accounts_put, roomsOf_put_self.trans (if_neg hroom).symm,
      fun _ hu => roomsOf_put_of_ne hu⟩

/-- **A room that was made enters the registry**, and the others keep all their rooms but this
one. -/
theorem enters_addCreated (reg : Registry ρ) (owner : String) (room : ρ) :
    Enters owner room (·.filter (· ≠ room)) reg (reg.addCreated owner room).1 := by
  have henters := enters_addJoined (reg.withdraw owner room) owner room
  have hown : (reg.withdraw owner room).roomsOf owner = reg.roomsOf owner :=
    roomsOf_withdraw.trans (if_pos rfl)
  refine ⟨henters.accounts.trans (by rw [accounts_withdraw]), henters.own.trans (by rw [hown]),
    fun user hu => (henters.others user hu).trans ?_⟩
  exact roomsOf_withdraw.trans (if_neg hu)

end Rooms

end PairChat.Registry
