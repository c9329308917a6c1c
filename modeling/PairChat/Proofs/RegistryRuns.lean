import PairChat.Proofs.RegistryUpdates

/-!
# Runs of registry updates

An `Update` enters a room into a registry, as one that was made or as one that was joined; it
answers whether anything changed.  `Update.IsKept` says what one update leaves: the room is listed,
no account is lost, the other rooms stay as they are and none of them is listed twice.

* `isKept_apply`: every update of every registry is kept.
* `accounts_after`, `roomsOf_after`, `count_after`: what updates leave of a registry, one after
  another.
* `updates_exact`: **both, for an update after any others.**
-/

namespace PairChat.Registry

/-- A room enters a registry: one that was made, or one that was joined. -/
inductive Update (ρ : Type) where
  | made (owner : String) (room : ρ)
  | joined (owner : String) (room : ρ)
deriving DecidableEq, Repr

namespace Update

variable {ρ : Type}

/-- The account that the room is to be listed under. -/
def owner : Update ρ → String
  | made owner _ | joined owner _ => owner

/-- The room that enters. -/
def room : Update ρ → ρ
  | made _ room | joined _ room => room

/-- May the room be listed under no other account? -/
def isExclusive : Update ρ → Bool
  | made .. => true
  | joined .. => false

/-- The registry after the update, and whether that is a change. -/
def apply [DecidableEq ρ] (reg : Registry ρ) : Update ρ → Registry ρ × Bool
  | made owner room => reg.addCreated owner room
  | joined owner room => reg.addJoined owner room

/-- **What an update leaves of a registry**, and what it answers. -/
structure IsKept [DecidableEq ρ] (u : Update ρ) (old new : Registry ρ) (changed : Bool) :
    Prop where
  changed_iff : changed = true ↔ new ≠ old
  again : u.apply new = (new, false)
  listed : u.room ∈ new.roomsOf u.owner
  exclusive : u.isExclusive = true → ∀ user, user ≠ u.owner → u.room ∉ new.roomsOf user
  accounts : old.accounts <+: new.accounts
  others : ∀ user, (new.roomsOf user).filter (· ≠ u.room) = (old.roomsOf user).filter (· ≠ u.room)
  count : ∀ user room, (new.roomsOf user).count room ≤ max 1 ((old.roomsOf user).count room)

end Update

variable {ρ : Type} [DecidableEq ρ] {reg old new : Registry ρ} {user owner : String}
  {room : ρ} {rooms : List ρ} {u : Update ρ}

/-! ### Rooms that have entered -/

theorem isListedElsewhere_eq_false_iff : reg.isListedElsewhere owner room = false ↔
    ∀ x ∈ reg, x.1 ≠ owner → room ∉ x.2 := by
  simp [isListedElsewhere, List.any_eq_false]

theorem isListedElsewhere_withdraw :
    (reg.withdraw owner room).isListedElsewhere owner room = false := by
  rw [isListedElsewhere_eq_false_iff]
  intro x hx howner
  obtain ⟨⟨v, rs⟩, -, rfl⟩ := List.mem_map.mp hx
  by_cases hv : v = owner
  · simp [hv] at howner
  · simp [hv]

theorem isListedElsewhere_put (h : reg.isListedElsewhere owner room = false) :
    (reg.put owner rooms).isListedElsewhere owner room = false := by
  rw [isListedElsewhere_eq_false_iff] at h ⊢
  induction reg with
  | nil => simp [put]
  | cons x reg ih =>
    obtain ⟨v, rs⟩ := x
    rw [List.forall_mem_cons] at h
    by_cases hv : v = owner
    · simpa [put, hv] using h.2
    · simp only [put, if_neg hv, List.forall_mem_cons]
      exact ⟨h.1, ih h.2⟩

/-- A room that is listed nowhere else need not be withdrawn. -/
theorem withdraw_eq_self (h : reg.isListedElsewhere owner room = false) :
    reg.withdraw owner room = reg := by
  rw [isListedElsewhere_eq_false_iff] at h
  refine (List.map_congr_left fun ⟨v, rs⟩ hx => ?_).trans (List.map_id reg)
  by_cases hv : v = owner
  · simp [hv]
  · have hroom : ∀ r ∈ rs, r ≠ room := fun r hr e => h _ hx hv (e ▸ hr)
    simpa [hv, List.filter_eq_self] using hroom

theorem addJoined_of_mem (h : room ∈ reg.roomsOf owner) :
    reg.addJoined owner room = (reg, false) := by
  simp [addJoined, h]

theorem addCreated_of_mem (h : room ∈ reg.roomsOf owner)
    (helse : reg.isListedElsewhere owner room = false) :
    reg.addCreated owner room = (reg, false) := by
  simp [addCreated, withdraw_eq_self helse, addJoined_of_mem h, helse]

theorem isListedElsewhere_addCreated :
    (reg.addCreated owner room).1.isListedElsewhere owner room = false := by
  have hwithdrawn : (reg.withdraw owner room).isListedElsewhere owner room = false :=
    isListedElsewhere_withdraw
  simp only [addCreated, addJoined]
  split_ifs
  · exact hwithdrawn
  · exact isListedElsewhere_put hwithdrawn

theorem Enters.mem {kept : List ρ → List ρ} (h : Enters owner room kept old new) :
    room ∈ new.roomsOf owner := by
  rw [h.own]
  split_ifs with hold
  · exact hold
  · simp

theorem Enters.isPrefix_accounts {kept : List ρ → List ρ} (h : Enters owner room kept old new) :
    old.accounts <+: new.accounts := by
  rw [h.accounts]
  split_ifs
  · exact List.prefix_rfl
  · exact List.prefix_append _ _

/-! ### One update -/

/-- Rooms that other accounts keep when a room enters. -/
def Update.keeps (u : Update ρ) (rooms : List ρ) : List ρ :=
  if u.isExclusive then rooms.filter (· ≠ u.room) else rooms

theorem enters_apply (u : Update ρ) (reg : Registry ρ) :
    Enters u.owner u.room u.keeps reg (u.apply reg).1 := by
  cases u with
  | made owner room => exact enters_addCreated reg owner room
  | joined owner room => exact enters_addJoined reg owner room

/-- **An update that is repeated changes nothing.** -/
theorem apply_again (u : Update ρ) (reg : Registry ρ) :
    u.apply (u.apply reg).1 = ((u.apply reg).1, false) := by
  have hmem := (enters_apply u reg).mem
  cases u with
  | made owner room => exact addCreated_of_mem hmem isListedElsewhere_addCreated
  | joined owner room => exact addJoined_of_mem hmem

theorem mem_of_addJoined (h : (reg.addJoined owner room).2 = false) :
    room ∈ reg.roomsOf owner := by
  by_contra hroom
  rw [addJoined_changed_iff.mpr hroom] at h
  cases h

theorem apply_of_not_changed (h : (u.apply reg).2 = false) : (u.apply reg).1 = reg := by
  cases u with
  | made owner room =>
    have hparts : reg.isListedElsewhere owner room = false ∧
        ((reg.withdraw owner room).addJoined owner room).2 = false := Bool.or_eq_false_iff.mp h
    obtain ⟨helse, hjoined⟩ := hparts
    rw [withdraw_eq_self helse] at hjoined
    exact congrArg Prod.fst (addCreated_of_mem (mem_of_addJoined hjoined) helse)
  | joined owner room => exact congrArg Prod.fst (addJoined_of_mem (mem_of_addJoined h))

/-- The answer says whether anything changed. -/
theorem changed_iff (u : Update ρ) (reg : Registry ρ) :
    (u.apply reg).2 = true ↔ (u.apply reg).1 ≠ reg := by
  refine ⟨fun h hsame => ?_, fun h => ?_⟩
  · have hagain := congrArg Prod.snd (apply_again u reg)
    rw [hsame, h] at hagain
    cases hagain
  · by_contra hnot
    exact h (apply_of_not_changed (by simpa using hnot))

theorem filter_roomsOf_apply (u : Update ρ) (reg : Registry ρ) (user : String) :
    ((u.apply reg).1.roomsOf user).filter (· ≠ u.room) =
      (reg.roomsOf user).filter (· ≠ u.room) := by
  have h := enters_apply u reg
  by_cases huser : user = u.owner
  · rw [huser, h.own]
    split_ifs
    · rfl
    · simp
  · rw [h.others user huser, Update.keeps]
    split_ifs
    · rw [List.filter_filter]
      simp
    · rfl

theorem count_roomsOf_apply (u : Update ρ) (reg : Registry ρ) (user : String) (room : ρ) :
    ((u.apply reg).1.roomsOf user).count room ≤ max 1 ((reg.roomsOf user).count room) := by
  have h := enters_apply u reg
  by_cases huser : user = u.owner
  · rw [huser, h.own]
    split_ifs with hmem
    · exact Nat.le_max_right _ _
    · -- the new room stands there once, and every other room as often as before
      rw [List.count_append, List.count_singleton]
      by_cases hroom : u.room = room
      · rw [← hroom, List.count_eq_zero_of_not_mem hmem]
        simp
      · rw [beq_false_of_ne hroom]
        exact Nat.le_max_right _ _
  · rw [h.others user huser, Update.keeps]
    split_ifs
    · exact Nat.le_trans (List.filter_sublist.count_le room) (Nat.le_max_right _ _)
    · exact Nat.le_max_right _ _

/-- **Every update of every registry is kept.** -/
theorem isKept_apply (u : Update ρ) (reg : Registry ρ) :
    u.IsKept reg (u.apply reg).1 (u.apply reg).2 where
  changed_iff := changed_iff u reg
  again := apply_again u reg
  listed := (enters_apply u reg).mem
  exclusive hexclusive user huser := by
    rw [(enters_apply u reg).others user huser, Update.keeps, if_pos hexclusive]
    simp
  accounts := (enters_apply u reg).isPrefix_accounts
  others := filter_roomsOf_apply u reg
  count := count_roomsOf_apply u reg

/-! ### Updates one after another -/

/-- The registry after updates. -/
def after (reg : Registry ρ) (us : List (Update ρ)) : Registry ρ :=
  us.foldl (fun reg u => (u.apply reg).1) reg

theorem after_cons (u : Update ρ) (us : List (Update ρ)) :
    reg.after (u :: us) = (u.apply reg).1.after us := rfl

/-- No account is lost, and they keep their order. -/
theorem accounts_after (us : List (Update ρ)) : reg.accounts <+: (reg.after us).accounts := by
  induction us generalizing reg with
  | nil => exact List.prefix_rfl
  | cons u us ih => exact (enters_apply u reg).isPrefix_accounts.trans ih

/-- Rooms that no update is about stay as they are. -/
theorem roomsOf_after (us : List (Update ρ)) (user : String) :
    ((reg.after us).roomsOf user).filter (· ∉ us.map Update.room) =
      (reg.roomsOf user).filter (· ∉ us.map Update.room) := by
  induction us generalizing reg with
  | nil => rfl
  | cons u us ih =>
    have hsplit : ∀ rooms : List ρ, rooms.filter (· ∉ (u :: us).map Update.room) =
        (rooms.filter (· ∉ us.map Update.room)).filter (· ≠ u.room) := by
      intro rooms
      rw [List.filter_filter]
      exact List.filter_congr fun r _ => by simp
    have hcomm : ∀ rooms : List ρ,
        (rooms.filter (· ∉ us.map Update.room)).filter (· ≠ u.room) =
          (rooms.filter (· ≠ u.room)).filter (· ∉ us.map Update.room) :=
      fun rooms => List.filter_comm _ _ rooms
    rw [after_cons, hsplit, ih, hcomm, filter_roomsOf_apply, ← hcomm, ← hsplit]

/-- No room is listed twice that was not. -/
theorem count_after (us : List (Update ρ)) (user : String) (room : ρ) :
    ((reg.after us).roomsOf user).count room ≤ max 1 ((reg.roomsOf user).count room) := by
  induction us generalizing reg with
  | nil => exact Nat.le_max_right _ _
  | cons u us ih =>
    have hfirst := count_roomsOf_apply u reg user room
    have hrest := @ih (u.apply reg).1
    rw [after_cons]
    omega

/-- **What an update after any others leaves, and what they all leave.** An update answers whether
it changed the registry, and changes nothing if it is repeated; its room is listed, and nowhere else
if it was made.  Accounts keep their places and other rooms theirs, and no room is listed twice that
was not. -/
theorem updates_exact (reg : Registry ρ) (us : List (Update ρ)) (u : Update ρ) :
    u.IsKept (reg.after us) (u.apply (reg.after us)).1 (u.apply (reg.after us)).2 ∧
      reg.accounts <+: (reg.after us).accounts ∧
      (∀ user, ((reg.after us).roomsOf user).filter (· ∉ us.map Update.room) =
        (reg.roomsOf user).filter (· ∉ us.map Update.room)) ∧
      ((∀ user, (reg.roomsOf user).Nodup) → ∀ user, ((reg.after us).roomsOf user).Nodup) := by
  refine ⟨isKept_apply u _, accounts_after us, roomsOf_after us, fun hnodup user => ?_⟩
  rw [List.nodup_iff_count_le_one]
  intro room
  have hbefore := List.nodup_iff_count_le_one.mp (hnodup user) room
  have hcount : ((reg.after us).roomsOf user).count room ≤ max 1 ((reg.roomsOf user).count room) :=
    count_after us user room
  omega

end PairChat.Registry
