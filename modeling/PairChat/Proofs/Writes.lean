import PairChat.Proofs.Acting

/-!
# Writes: what an account writes of its own

An account that makes no chat writes records and documents that stand under its own name.  A
`Write` is one of them, or an instant that is taken for a write that fails.

* `Store.SameRows`: two stores hold the same rows, but for the times of the records.
* `sameRows_write_comm`, `sameRows_writeAll_comm`: **writes of different accounts can be made in
  either order.**
-/

namespace PairChat.Store

/-! ### Rows put under a key -/

section Put
variable {α : Type} {p q : α → Bool} {a b : α}

/-- The rows with a row in the place of those that `p` holds of, or added. -/
def putRow (p : α → Bool) (a : α) (l : List α) : List α :=
  if l.any p then l.map fun r => if p r then a else r else l ++ [a]

theorem map_replace_comm (ha : q a = false) (hb : p b = false) (hpq : ∀ r, p r → q r = false)
    (l : List α) :
    (l.map fun r => if p r then a else r).map (fun r => if q r then b else r) =
      (l.map fun r => if q r then b else r).map fun r => if p r then a else r := by
  rw [List.map_map, List.map_map]
  refine List.map_congr_left fun r _ => ?_
  by_cases hp : p r
  · simp [hp, ha, hpq r hp]
  · by_cases hq : q r <;> simp [hp, hq, hb]

theorem any_putRow (ha : q a = false) (hpq : ∀ r, p r → q r = false) (l : List α) :
    (putRow p a l).any q = l.any q := by
  unfold putRow
  split_ifs with h
  · rw [List.any_map]
    refine congrArg l.any (funext fun r => ?_)
    by_cases hp : p r
    · simp [hp, ha, hpq r hp]
    · simp [hp]
  · simp [ha]

theorem perm_putRow {l l' : List α} (h : l.Perm l') : (putRow p a l).Perm (putRow p a l') := by
  unfold putRow
  rw [h.any_eq]
  split_ifs
  · exact h.map _
  · exact h.append_right [a]

/-- Rows under different keys can be put in either order. -/
theorem perm_putRow_comm (ha : q a = false) (hb : p b = false) (hpq : ∀ r, p r → q r = false)
    (l : List α) : (putRow q b (putRow p a l)).Perm (putRow p a (putRow q b l)) := by
  have hqp : ∀ r, q r → p r = false := by
    intro r hq
    by_contra hp
    rw [hpq r (by simpa using hp)] at hq
    cases hq
  have hp' := any_putRow hb hqp l
  have hq' := any_putRow ha hpq l
  rw [putRow, hq', putRow, putRow, hp', putRow]
  split_ifs
  · rw [map_replace_comm ha hb hpq]
  · simp [ha]
  · simp [hb]
  · rw [List.append_assoc, List.append_assoc]
    exact (List.Perm.swap b a []).append_left l

end Put

/-! ### The same rows -/

/-- A record without its time. -/
def MemberRow.undated (m : MemberRow) : MemberRow := { m with updatedAt := 0 }

namespace Tables

variable {t t' t'' : Tables}

/-- **The same rows, but for the times of the records.** The documents stand in any order. -/
structure SameRows (t t' : Tables) : Prop where
  users : t.users = t'.users
  rooms : t.rooms = t'.rooms
  members : t.members.map MemberRow.undated = t'.members.map MemberRow.undated
  documents : t.documents.Perm t'.documents

theorem SameRows.refl (t : Tables) : t.SameRows t := ⟨rfl, rfl, rfl, List.Perm.refl _⟩

theorem SameRows.symm (h : t.SameRows t') : t'.SameRows t :=
  ⟨h.users.symm, h.rooms.symm, h.members.symm, h.documents.symm⟩

theorem SameRows.trans (h : t.SameRows t') (h' : t'.SameRows t'') : t.SameRows t'' :=
  ⟨h.users.trans h'.users, h.rooms.trans h'.rooms, h.members.trans h'.members,
    h.documents.trans h'.documents⟩

theorem SameRows.user? (h : t.SameRows t') (id : String) : t.user? id = t'.user? id := by
  rw [Tables.user?, h.users, Tables.user?]

theorem isRecordOf_undated {row row' : MemberRow} (h : row.undated = row'.undated) :
    isRecordOf row.roomId row.userId = isRecordOf row'.roomId row'.userId := by
  show isRecordOf row.undated.roomId row.undated.userId = _
  rw [h]
  rfl

theorem undated_withRecord (row : MemberRow) :
    (t.withRecord row).members.map MemberRow.undated =
      (t.members.map MemberRow.undated).map fun r =>
        if isRecordOf row.roomId row.userId r then row.undated else r := by
  unfold withRecord
  rw [List.map_map, List.map_map]
  refine List.map_congr_left fun r _ => ?_
  show (if isRecordOf row.roomId row.userId r then row else r).undated =
    if isRecordOf row.roomId row.userId r then row.undated else r.undated
  split_ifs <;> rfl

theorem SameRows.withRecord (h : t.SameRows t') {row row' : MemberRow}
    (hrow : row.undated = row'.undated) : (t.withRecord row).SameRows (t'.withRecord row') where
  users := h.users
  rooms := h.rooms
  members := by
    rw [undated_withRecord, undated_withRecord, h.members, isRecordOf_undated hrow, hrow]
  documents := h.documents

theorem SameRows.withDocument (h : t.SameRows t') (row : DocumentRow) :
    (t.withDocument row).SameRows (t'.withDocument row) :=
  { h with documents := perm_putRow h.documents }

/-- Records of different users can be written in either order. -/
theorem sameRows_withRecord_comm {x x' y y' : MemberRow} (hx : x.undated = x'.undated)
    (hy : y.undated = y'.undated) (hne : x.userId ≠ y.userId) :
    ((t.withRecord x).withRecord y).SameRows ((t.withRecord y').withRecord x') where
  users := rfl
  rooms := rfl
  members := by
    have hkeys : ∀ r, isRecordOf x.roomId x.userId r → isRecordOf y.roomId y.userId r = false := by
      intro r hr
      rw [Bool.eq_false_iff, ne_eq, isRecordOf_iff, isRecordOf_iff.mp hr]
      exact fun e => hne (Prod.mk.inj e).2
    have hxy : isRecordOf y.roomId y.userId x.undated = false := hkeys _ (isRecordOf_iff.mpr rfl)
    have hyx : isRecordOf x.roomId x.userId y.undated = false := by
      rw [Bool.eq_false_iff, ne_eq, isRecordOf_iff]
      exact fun e => hne (Prod.mk.inj e).2.symm
    simp only [undated_withRecord, ← isRecordOf_undated hx, ← isRecordOf_undated hy, ← hx, ← hy]
    exact map_replace_comm hxy hyx hkeys _
  documents := List.Perm.refl _

/-- Documents of different users can be written in either order. -/
theorem sameRows_withDocument_comm {d e : DocumentRow} (hne : d.userId ≠ e.userId) :
    ((t.withDocument d).withDocument e).SameRows ((t.withDocument e).withDocument d) :=
  { SameRows.refl t with
    documents := by
      refine perm_putRow_comm (by simp [hne]) (by simp [hne.symm]) (fun r hr => ?_) t.documents
      have hr' : r.userId = d.userId := by simpa using (Bool.and_eq_true_iff.mp hr).1
      simp [hr', hne] }

end Tables

variable {s s' s'' : Store}

/-- **The stores hold the same rows, but for the times of the records**, those that are read and
those that are committed. -/
structure SameRows (s s' : Store) : Prop where
  live : s.live.SameRows s'.live
  saved : s.saved.SameRows s'.saved
  /-- Something is written and not committed in both stores or in none. -/
  pending : s.pending.isSome = s'.pending.isSome
  clock : s.clock = s'.clock
  nextRoom : s.nextRoom = s'.nextRoom

theorem SameRows.refl (s : Store) : s.SameRows s :=
  ⟨Tables.SameRows.refl _, Tables.SameRows.refl _, rfl, rfl, rfl⟩

theorem SameRows.symm (h : s.SameRows s') : s'.SameRows s :=
  ⟨h.live.symm, h.saved.symm, h.pending.symm, h.clock.symm, h.nextRoom.symm⟩

theorem SameRows.trans (h : s.SameRows s') (h' : s'.SameRows s'') : s.SameRows s'' :=
  ⟨h.live.trans h'.live, h.saved.trans h'.saved, h.pending.trans h'.pending,
    h.clock.trans h'.clock, h.nextRoom.trans h'.nextRoom⟩

/-- The same rows are committed at the same instant. -/
theorem sameRows_wrote {t t' : Tables} (h : t.SameRows t') (hc : s.clock = s'.clock)
    (hn : s.nextRoom = s'.nextRoom) : (s.wrote t).SameRows (s'.wrote t') :=
  ⟨h, h, rfl, congrArg (· + 1) hc, hn⟩

/-! ### Writes -/

/-- What an account writes of its own. -/
inductive Write where
  | record (room : String) (w : Membership)
  | document (type : String) (content : Value)
  /-- An instant is taken, and nothing is written. -/
  | instant
deriving DecidableEq, Repr

/-- The store after a write of an account. -/
def write (me : String) (s : Store) : Write → Store
  | .record room w => s.wrote (s.live.withRecord (s.record room me w.wire))
  | .document type content => s.wrote (s.live.withDocument ⟨me, type, content⟩)
  | .instant => { s with clock := s.clock + 1 }

/-- The store after some writes of an account. -/
def writeAll (me : String) (s : Store) (ws : List Write) : Store := ws.foldl (write me) s

variable {me you : String}

@[simp] theorem writeAll_nil : s.writeAll me [] = s := rfl

@[simp] theorem writeAll_cons (w : Write) (ws : List Write) :
    s.writeAll me (w :: ws) = (s.write me w).writeAll me ws := rfl

@[simp] theorem users_write (w : Write) : (s.write me w).live.users = s.live.users := by
  cases w <;> rfl

/-- Records that are written at different times differ in nothing else. -/
theorem undated_record (h : s.live.users = s'.live.users) (room user word : String) :
    (s.record room user word).undated = (s'.record room user word).undated := by
  simp only [MemberRow.undated, record, Tables.user?, h]

theorem SameRows.write (h : s.SameRows s') (w : Write) :
    (s.write me w).SameRows (s'.write me w) := by
  cases w with
  | record room w =>
    exact sameRows_wrote (h.live.withRecord (undated_record h.live.users _ _ _)) h.clock h.nextRoom
  | document type content => exact sameRows_wrote (h.live.withDocument _) h.clock h.nextRoom
  | instant => exact { h with clock := congrArg (· + 1) h.clock }

theorem SameRows.writeAll (h : s.SameRows s') (ws : List Write) :
    (s.writeAll me ws).SameRows (s'.writeAll me ws) := by
  induction ws generalizing s s' with
  | nil => exact h
  | cons w ws ih => exact ih (h.write w)

/-- An instant can be taken before a write or after it. -/
theorem sameRows_instant_comm (w : Write) :
    ((s.write you .instant).write me w).SameRows ((s.write me w).write you .instant) := by
  cases w with
  | record room w =>
    exact sameRows_wrote ((Tables.SameRows.refl s.live).withRecord (undated_record rfl _ _ _)) rfl
      rfl
  | document type content => exact SameRows.refl _
  | instant => exact SameRows.refl _

/-- A record can be written before a document or after it. -/
theorem sameRows_record_document_comm (room : String) (w : Membership) (type : String)
    (content : Value) :
    ((s.write you (.document type content)).write me (.record room w)).SameRows
      ((s.write me (.record room w)).write you (.document type content)) := by
  have hd := (Tables.SameRows.refl s.live).withDocument ⟨you, type, content⟩
  exact sameRows_wrote (hd.withRecord (undated_record rfl _ _ _)) rfl rfl

/-- **Two writes of different accounts can be made in either order.** -/
theorem sameRows_write_comm (hne : me ≠ you) (w w' : Write) :
    ((s.write me w).write you w').SameRows ((s.write you w').write me w) := by
  cases w with
  | instant => exact sameRows_instant_comm w'
  | record room m =>
    cases w' with
    | instant => exact (sameRows_instant_comm (.record room m)).symm
    | document type content => exact (sameRows_record_document_comm room m type content).symm
    | record room' m' =>
      refine sameRows_wrote (Tables.sameRows_withRecord_comm ?_ ?_ hne) rfl rfl
      · exact undated_record (users_write (.record room' m')).symm _ _ _
      · exact undated_record (users_write (.record room m)) _ _ _
  | document type content =>
    cases w' with
    | instant => exact (sameRows_instant_comm (.document type content)).symm
    | record room' m' => exact sameRows_record_document_comm room' m' type content
    | document type' content' =>
      exact sameRows_wrote (Tables.sameRows_withDocument_comm hne) rfl rfl

theorem sameRows_write_writeAll_comm (hne : me ≠ you) (w : Write) (ws : List Write) :
    ((s.write me w).writeAll you ws).SameRows ((s.writeAll you ws).write me w) := by
  induction ws generalizing s with
  | nil => exact SameRows.refl _
  | cons w' ws ih => exact ((sameRows_write_comm hne w w').writeAll ws).trans ih

/-- **Writes of different accounts can be made in either order.** -/
theorem sameRows_writeAll_comm (hne : me ≠ you) (ws ws' : List Write) :
    ((s.writeAll me ws).writeAll you ws').SameRows ((s.writeAll you ws').writeAll me ws) := by
  induction ws generalizing s with
  | nil => exact SameRows.refl _
  | cons w ws ih => exact ih.trans ((sameRows_write_writeAll_comm hne w ws').writeAll ws)

end PairChat.Store
