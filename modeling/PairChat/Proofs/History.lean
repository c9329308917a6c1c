import Mathlib.Data.List.Induction
import PairChat.Proofs.Calls

/-!
# Histories: calls one after the other

A history is a list of calls, and `Store.after` is the store that it leaves.

* `Store.Sound`: the tables of the store are sound, those that are read and those that are
  committed.  Every kind of write keeps this, hence every call does (`Sound.next`).
* `sound_after`: **every history that begins with an empty store leads to a sound one.**
* No call takes a record or a room away (`Effect.member?_isSome`, `Effect.mem_rooms`).
-/

namespace PairChat.Store

open PairChat.Action Account

/-- The store that a history leaves. -/
def after (server : String) (s : Store) (calls : List Call) : Store :=
  calls.foldl (fun s c => c.next server s) s

/-- An empty store. The clock and the numbers of rooms may begin anywhere. -/
def empty (first number : Nat) : Store := { clock := first, nextRoom := number }

variable {server me room : String} {s s' : Store} {c : Call} {r : Except Failure Reply}

@[simp] theorem after_nil : s.after server [] = s := rfl

@[simp] theorem after_cons (calls : List Call) :
    s.after server (c :: calls) = (c.next server s).after server calls := rfl

theorem after_append (calls calls' : List Call) :
    s.after server (calls ++ calls') = (s.after server calls).after server calls' :=
  List.foldl_append

theorem after_concat (calls : List Call) :
    s.after server (calls ++ [c]) = c.next server (s.after server calls) := after_append calls [c]

/-- The tables of a store are sound, those that are read and those that are committed. -/
structure Sound (server : String) (s : Store) : Prop where
  live : s.live.Sound server s.clock s.nextRoom
  saved : s.saved.Sound server s.clock s.nextRoom

theorem sound_empty (server : String) (first number : Nat) :
    (empty first number).Sound server :=
  ⟨Tables.sound_empty server first number, Tables.sound_empty server first number⟩

theorem Tables.Sound.mono {t : Tables} {clock next clock' next' : Nat}
    (h : t.Sound server clock next) (hc : clock ≤ clock') (hn : next ≤ next') :
    t.Sound server clock' next' :=
  { h with toCoherent := h.toCoherent.mono hc hn }

/-! ### Writing to a sound store -/

theorem sound_wrote {t : Tables} (h : t.Sound server s.clock s.nextRoom) :
    (s.wrote t).Sound server := by
  have h' : t.Sound server (s.clock + 1) s.nextRoom := h.mono (by omega) (Nat.le_refl _)
  exact ⟨h', h'⟩

/-- A committed store where an account lists the one room that it may not list yet. -/
theorem sound_listed (hsaved : s.saved = s.live)
    (hc : s.live.Coherent server s.clock s.nextRoom) (hl : s.live.ListedBut room me)
    (hm : ∃ m, s.live.member? room me = some m ∧ m.membership ≠ Membership.invited.wire) :
    (s.listed me room).Sound server := by
  have hu : (s.live.user? me).isSome := by
    obtain ⟨m, hm, -⟩ := hm
    have hsome : (s.live.member? room me).isSome := by rw [hm]; rfl
    exact hc.valid.user?_isSome_of_member? hsome
  have h : (s.listed me room).live.Sound server (s.listed me room).clock
      (s.listed me room).nextRoom := by
    rw [live_listed, nextRoom_listed]
    exact { (hc.withListed room hu).mono clock_le_listed (Nat.le_refl _), hl.withListed hm with }
  refine ⟨h, ?_⟩
  rw [saved_listed hsaved]
  exact h

namespace Tables.Coherent

variable {clock next : Nat} (h : s.live.Coherent server clock next)
include h

/-- A new record in the place of one that is there. -/
theorem withNewRecord {w : Membership} (hm : (s.live.member? room me).isSome)
    (hw : w = .joined ∨ w = .left) :
    (s.live.withRecord (s.record room me w.wire)).Coherent server clock next := by
  refine h.withRecord hm ?_ rfl rfl
  rcases hw with rfl | rfl
  · exact Or.inl rfl
  · exact Or.inr rfl

end Tables.Coherent

section Room
variable {u v : UserRow} (hu : s.live.user? me = some u)
include hu

theorem isNewRoom_begun (server : String) : Tables.IsNewRoom server s.clock s.nextRoom s.live
    (s.newRoom server me) (s.makerRecord server me) [] := by
  constructor <;> simp [newRoom, makerRecord, record, hu]

theorem isNewRoom_made {user : String} (server : String) (hv : s.live.user? user = some v)
    (hne : me ≠ user) : Tables.IsNewRoom server s.clock s.nextRoom s.live (s.newRoom server me)
      (s.makerRecord server me) [s.invitedRecord server user] := by
  constructor <;> simp [newRoom, makerRecord, invitedRecord, record, hu, hv, hne.symm]

end Room

section Write
variable (h : s.live.Sound server s.clock s.nextRoom)
include h

theorem sound_leftRoom (hm : (s.live.member? room me).isSome) :
    (s.leftRoom me room).Sound server := by
  have hl := h.toListed.withRecord (s.record room me Membership.left.wire)
    (show Membership.left.wire ≠ Membership.invited.wire by decide)
  refine sound_wrote { h.toCoherent.withNewRecord hm (Or.inr rfl), hl.listed ?_ ?_ with }
  · intro m hm' hj _
    obtain rfl := Option.some.inj ((Tables.member?_withRecord_self hm).symm.trans hm')
    cases Membership.wire_injective (a := .left) (b := .joined) hj
  · rintro r hr hid rfl ho
    have := h.maker_listed r hr (hid ▸ Tables.hasOther_withRecord.mp ho)
    exact hid ▸ this

theorem sound_leftRooms {rooms : List Room} (hs : s.saved.Sound server s.clock s.nextRoom)
    (hm : ∀ x ∈ rooms, (s.live.member? x.id me).isSome) : (s.leftRooms me rooms).Sound server := by
  induction rooms generalizing s with
  | nil => exact ⟨h, hs⟩
  | cons x rooms ih =>
    have hleft := sound_leftRoom h (hm x List.mem_cons_self)
    refine ih hleft.live hleft.saved fun y hy => ?_
    rw [live_leftRoom, Tables.member?_withRecord_isSome]
    exact hm y (List.mem_cons_of_mem x hy)

theorem sound_joinedRoom (ha : s.live.IsActive room me) :
    ((s.joinedRoom me room).listed me room).Sound server := by
  have hm := ha.isSome
  have hword : Membership.joined.wire ≠ Membership.invited.wire := by decide
  refine sound_listed rfl ?_ ?_ ?_
  · exact (h.toCoherent.withNewRecord hm (Or.inl rfl)).mono (Nat.le_succ _) (Nat.le_refl _)
  · exact h.toListed.withRecord (s.record room me Membership.joined.wire) hword
  · exact ⟨_, Tables.member?_withRecord_self hm, hword⟩

section Room
variable {user : String} {u v : UserRow} (hu : s.live.user? me = some u)
include hu

theorem sound_madeRoom (hv : s.live.user? user = some v) (hne : me ≠ user) :
    ((s.madeRoom server me user).listed me (roomName server s.nextRoom)).Sound server := by
  have hn := isNewRoom_made hu server hv hne
  refine sound_listed rfl (h.toCoherent.withRoom hn) (h.toListed.withRoom h.toCoherent hn) ?_
  exact ⟨_, h.toCoherent.member?_maker hn, hn.joined.1 ▸ by decide⟩

theorem sound_begunRoom (hs : s.saved.Sound server s.clock s.nextRoom) :
    (s.begunRoom server me).Sound server := by
  have hn := isNewRoom_begun hu server
  -- the room that was begun has one record
  have hno : ¬ (s.begunRoom server me).live.HasOther (roomName server s.nextRoom) me := by
    rintro ⟨w, hw, hm⟩
    obtain ⟨m, hrow, rfl⟩ := h.toCoherent.exists_newRecord hn hm
    rw [List.mem_singleton.mp hrow] at hw
    exact hw rfl
  have hl := h.toListed.withRoom h.toCoherent hn
  refine ⟨?_, hs.mono (Nat.le_succ _) (Nat.le_succ _)⟩
  exact { h.toCoherent.withRoom hn, hl.listed (fun _ _ _ ho => absurd ho hno)
    (fun _ _ _ _ ho => absurd ho hno) with }

end Room

end Write

/-! ### Every history -/

/-- **A call keeps a store sound.** -/
theorem Sound.next (h : s.Sound server) (c : Call) : (c.next server s).Sound server := by
  have he := effect_call h.live c
  generalize c.reply server s = r at he
  generalize hs' : c.next server s = s' at he
  clear hs'
  cases he with
  | failed instants =>
    exact ⟨h.live.mono (Nat.le_add_right _ _) (Nat.le_refl _),
      h.saved.mono (Nat.le_add_right _ _) (Nat.le_refl _)⟩
  | observed hop => exact h
  | registered hh hid hne hname hfree =>
    exact sound_wrote { h.live.toCoherent.withUser s.clock hh hid hne hname hfree,
      h.live.toListed.withUser _ with }
  | made hu hv hne hfree => exact sound_madeRoom h.live hu hv hne
  | begun hu he hfree => exact sound_begunRoom h.live hu h.saved
  | accepted ha => exact sound_joinedRoom h.live ha
  | declined hm => exact sound_leftRoom h.live hm
  | swept =>
    refine sound_leftRooms h.live h.saved fun x hx => ?_
    exact (member?_isSome_of_mem_roomsIn ((mem_staleIn h.live).mp hx).1).2
  | blockList hop hu =>
    have htype : blockListType ≠ registryType := by decide
    exact sound_wrote { h.live.toCoherent.withDocument hu, h.live.toListed.withDocument htype with }

/-- **Every history keeps a store sound.** -/
theorem Sound.after (h : s.Sound server) (calls : List Call) :
    (s.after server calls).Sound server := by
  induction calls generalizing s with
  | nil => exact h
  | cons c calls ih => exact ih (h.next c)

theorem sound_after (server : String) (first number : Nat) (calls : List Call) :
    ((empty first number).after server calls).Sound server :=
  (sound_empty server first number).after calls

/-! ### What stays -/

/-- **Records stay.** -/
theorem Effect.member?_isSome (he : Effect server s c r s') {user : String}
    (hm : (s.live.member? room user).isSome) : (s'.live.member? room user).isSome := by
  cases he with
  | failed instants => exact hm
  | observed hop => exact hm
  | registered hh hid hne hname hfree => exact hm
  | made hu hv hne hfree =>
    rw [live_listed, Tables.member?_withListed, live_madeRoom, Tables.member?_withRoom,
      Option.isSome_or, hm, Bool.true_or]
  | begun hu he hfree =>
    rw [live_begunRoom, Tables.member?_withRoom, Option.isSome_or, hm, Bool.true_or]
  | accepted ha =>
    rw [live_listed, Tables.member?_withListed, live_joinedRoom, Tables.member?_withRecord_isSome]
    exact hm
  | declined hs =>
    rw [live_leftRoom, Tables.member?_withRecord_isSome]
    exact hm
  | swept =>
    rw [member?_leftRooms_isSome]
    exact hm
  | blockList hop hu => exact hm

theorem Effect.hasOther (he : Effect server s c r s') {user : String}
    (h : s.live.HasOther room user) : s'.live.HasOther room user := by
  obtain ⟨v, hv, hm⟩ := h
  exact ⟨v, hv, he.member?_isSome hm⟩

/-- **A room is there before a call, or the call makes it.** Somebody is invited to it, or it is
what is left of an attempt to invite oneself. -/
theorem Effect.mem_rooms (he : Effect server s c r s') {row : RoomRow} (hr : row ∈ s'.live.rooms) :
    row ∈ s.live.rooms ∨ ∃ me handle, c = .perform (some me) (.create handle) ∧
      row = s.newRoom server me ∧ (s'.live.HasOther row.id row.creator ∨
        UserId.qualify handle server = me ∧ r = .error .constraint) := by
  cases he with
  | failed instants => exact Or.inl hr
  | observed hop => exact Or.inl hr
  | registered hh hid hne hname hfree => exact Or.inl hr
  | @made me handle u v hu hv hne hfree =>
    rw [live_listed, Tables.rooms_withListed] at hr
    rcases List.mem_append.mp hr with hr | hr
    · exact Or.inl hr
    · obtain rfl := List.mem_singleton.mp hr
      refine Or.inr ⟨me, handle, rfl, rfl, Or.inl ⟨UserId.qualify handle server, hne.symm, ?_⟩⟩
      rw [live_listed, Tables.member?_withListed, live_madeRoom]
      refine Tables.member?_withRoom_isSome (m := s.invitedRecord server _) _ ?_
      exact List.mem_cons_of_mem _ (List.mem_singleton_self _)
  | @begun me handle u hu he hfree =>
    rcases List.mem_append.mp hr with hr | hr
    · exact Or.inl hr
    · obtain rfl := List.mem_singleton.mp hr
      exact Or.inr ⟨me, handle, rfl, rfl, Or.inr ⟨he.symm, rfl⟩⟩
  | accepted ha =>
    rw [live_listed, Tables.rooms_withListed] at hr
    exact Or.inl hr
  | declined hs => exact Or.inl hr
  | swept =>
    rw [live_leftRooms] at hr
    exact Or.inl hr
  | blockList hop hu => exact Or.inl hr

/-- A room that a failed attempt of its maker to make a chat with itself left behind. -/
def IsLeftover (server : String) (s : Store) (calls : List Call) (row : RoomRow) : Prop :=
  ∃ pre handle post, calls = pre ++ .perform (some row.creator) (.create handle) :: post ∧
    UserId.qualify handle server = row.creator ∧
    (Call.perform (some row.creator) (.create handle)).reply server (s.after server pre) =
      .error .constraint ∧
    row ∉ (s.after server pre).live.rooms ∧
    row ∈ (s.after server (pre ++ [.perform (some row.creator) (.create handle)])).live.rooms

/-- A room with a single record was there before the history, or it is left over. -/
theorem mem_rooms_or_isLeftover (h : s.Sound server) (calls : List Call) {row : RoomRow}
    (hr : row ∈ (s.after server calls).live.rooms)
    (ho : ¬ (s.after server calls).live.HasOther row.id row.creator) :
    row ∈ s.live.rooms ∨ IsLeftover server s calls row := by
  induction calls using List.reverseRecOn with
  | nil => exact Or.inl hr
  | append_singleton calls c ih =>
    have hpre := h.after calls
    have he := effect_call hpre.live c
    rw [after_concat] at hr ho
    rcases he.mem_rooms hr with hold | ⟨me, handle, rfl, rfl, hnew | ⟨hself, hreply⟩⟩
    · rcases ih hold fun h => ho (he.hasOther h) with hs | ⟨pre, handle, post, rfl, hrest⟩
      · exact Or.inl hs
      · exact Or.inr ⟨pre, handle, post ++ [c], by simp, hrest⟩
    · exact absurd hnew ho
    · refine Or.inr ⟨calls, handle, [], rfl, hself, hreply, ?_, ?_⟩
      · intro hold
        exact hpre.live.ne_roomName_next hold rfl
      · rw [after_concat]
        exact hr

/-- **The tables after every history.** They are sound, and a room with a single record is left over
from a failed attempt of its maker to make a chat with itself. -/
theorem sound_history (server : String) (first number : Nat) (calls : List Call) :
    let s := (empty first number).after server calls
    s.Sound server ∧ ∀ row ∈ s.live.rooms, ¬ s.live.HasOther row.id row.creator →
      IsLeftover server (empty first number) calls row := by
  intro s
  refine ⟨sound_after server first number calls, fun row hrow ho => ?_⟩
  rcases mem_rooms_or_isLeftover (sound_empty server first number) calls hrow ho with hs | hl
  · cases hs
  · exact hl

end PairChat.Store
