import PairChat.Store.Tables
import Mathlib.Data.List.Nodup
import Mathlib.Tactic.SplitIfs

/-!
# Rows: what is read after a write

Four writes of whole rows, each with the equations for what is read after it: a user more
(`withUser`), a room more with the records it begins with (`withRoom`), a record in the place of
another one (`withRecord`), a document put or added (`withDocument`).  The statements of `Tables`
are these writes wherever they succeed (`insertUser_eq`, `putMember_eq`, `putDocument_eq`, …).

* Where every key stands once, a look-up finds exactly the rows of the table:
  `member?_eq_some_iff`, `document?_eq_some_iff`.
* The four writes keep `Tables.Valid`, and the names that are found in valid tables can be encoded.
-/

namespace PairChat.Store

section Keyed

variable {α β : Type}

/-- The row of a key, after another row was put in the place of the rows that `p` holds of. -/
theorem find?_replace_self {p : α → Bool} {row : α} (h : p row) (l : List α) :
    (l.map fun r => if p r then row else r).find? p = (l.find? p).map fun _ => row := by
  induction l with
  | nil => rfl
  | cons r l ih => by_cases hr : p r <;> simp [hr, h, ih]

theorem find?_replace_other {p q : α → Bool} {row : α} (h : q row = false)
    (hpq : ∀ r, p r → q r = false) (l : List α) :
    (l.map fun r => if p r then row else r).find? q = l.find? q := by
  induction l with
  | nil => rfl
  | cons r l ih =>
    by_cases hr : p r
    · simp [hr, h, hpq r hr, ih]
    · by_cases hq : q r <;> simp [hr, hq, ih]

theorem filter_replace_other {p q : α → Bool} {row : α} (h : q row = false)
    (hpq : ∀ r, p r → q r = false) (l : List α) :
    (l.map fun r => if p r then row else r).filter q = l.filter q := by
  induction l with
  | nil => rfl
  | cons r l ih =>
    by_cases hr : p r
    · simp [hr, h, hpq r hr, ih]
    · by_cases hq : q r <;> simp [hr, hq, ih]

/-- What is looked for is found among the rows that come into question. -/
theorem find?_filter_of_imp {p q : α → Bool} (hpq : ∀ a, q a → p a) (l : List α) :
    (l.filter p).find? q = l.find? q := by
  rw [List.find?_filter]
  congr 1
  funext a
  rw [Bool.eq_iff_iff, decide_eq_true_iff]
  exact ⟨And.right, fun hq => ⟨hpq a hq, hq⟩⟩

/-- A row in the place of rows with its key leaves the keys as they are. -/
theorem map_replace {p : α → Bool} {row : α} {key : α → β} (h : ∀ r, p r → key r = key row)
    (l : List α) : (l.map fun r => if p r then row else r).map key = l.map key := by
  rw [List.map_map]
  refine List.map_congr_left fun r _ => ?_
  by_cases hr : p r
  · simp [hr, h r hr]
  · simp [hr]

/-- Where every key stands once, the row that is found is the row with the key. -/
theorem find?_eq_some_iff_of_nodup {p : α → Bool} {key : α → β} {k : β} {l : List α}
    (hp : ∀ r, p r ↔ key r = k) (hn : (l.map key).Nodup) {r : α} :
    l.find? p = some r ↔ r ∈ l ∧ key r = k := by
  constructor
  · intro h
    exact ⟨List.mem_of_find?_eq_some h, (hp r).mp (List.find?_some h)⟩
  · rintro ⟨hr, hk⟩
    have hs : (l.find? p).isSome := by
      rw [List.find?_isSome]
      exact ⟨r, hr, (hp r).mpr hk⟩
    obtain ⟨r', hr'⟩ := Option.isSome_iff_exists.mp hs
    have hk' := (hp r').mp (List.find?_some hr')
    rw [hr', List.inj_on_of_nodup_map hn (List.mem_of_find?_eq_some hr') hr (hk'.trans hk.symm)]

end Keyed

namespace Tables

variable {t : Tables}

/-! ### Look-ups -/

/-- The row of a document. -/
def document? (t : Tables) (user type : String) : Option DocumentRow :=
  t.documents.find? fun d => d.userId == user && d.type == type

theorem document_eq (user type : String) :
    t.document user type = match t.document? user type with
      | some d => readable d.content
      | none => .ok .null := rfl

theorem isRecordOf_iff {room user : String} {r : MemberRow} :
    isRecordOf room user r ↔ (r.roomId, r.userId) = (room, user) := by
  simp [isRecordOf]

theorem of_user?_eq_some {id : String} {u : UserRow} (h : t.user? id = some u) :
    u ∈ t.users ∧ u.id = some id :=
  ⟨List.mem_of_find?_eq_some h, by simpa using List.find?_some h⟩

theorem of_member?_eq_some {room user : String} {r : MemberRow} (h : t.member? room user = some r) :
    r ∈ t.members ∧ r.roomId = room ∧ r.userId = user := by
  have hk := isRecordOf_iff.mp (List.find?_some h)
  exact ⟨List.mem_of_find?_eq_some h, (Prod.mk.inj hk).1, (Prod.mk.inj hk).2⟩

theorem user?_isSome_iff {id : String} : (t.user? id).isSome ↔ ∃ u ∈ t.users, u.id = some id := by
  simp [user?, List.find?_isSome]

theorem room?_isSome_iff {id : String} : (t.room? id).isSome ↔ ∃ r ∈ t.rooms, r.id = id := by
  simp [room?, List.find?_isSome]

theorem ne_of_room?_eq_none {id : String} (h : t.room? id = none) {r : RoomRow}
    (hr : r ∈ t.rooms) : r.id ≠ id := by
  intro e
  have hs := room?_isSome_iff.mpr ⟨r, hr, e⟩
  rw [h] at hs
  cases hs

theorem member?_isSome_of_mem {r : MemberRow} (h : r ∈ t.members) :
    (t.member? r.roomId r.userId).isSome := by
  simp only [member?, List.find?_isSome]
  exact ⟨r, h, by simp [isRecordOf]⟩

section Valid
variable (hv : t.Valid)
include hv

/-- Registered users have names that can be encoded. -/
theorem Valid.isEncodable_of_user? {id : String} (h : (t.user? id).isSome) :
    Text.isEncodable id := by
  obtain ⟨u, hu, hid⟩ := user?_isSome_iff.mp h
  exact bound_eq_ok_iff.mp (hv.users_bound u hu) id (by simp [UserRow.texts, hid])

theorem Valid.isEncodable_displayName {id name : String} {u : UserRow} (h : t.user? id = some u)
    (hname : u.displayName = some name) : Text.isEncodable name :=
  bound_eq_ok_iff.mp (hv.users_bound u (of_user?_eq_some h).1) name
    (by simp [UserRow.texts, hname])

theorem Valid.isEncodable_of_room? {id : String} (h : (t.room? id).isSome) :
    Text.isEncodable id := by
  obtain ⟨r, hr, rfl⟩ := room?_isSome_iff.mp h
  exact bound_eq_ok_iff.mp (hv.rooms_bound r hr) r.id List.mem_cons_self

theorem Valid.member?_eq_some_iff {room user : String} {r : MemberRow} :
    t.member? room user = some r ↔ r ∈ t.members ∧ (r.roomId, r.userId) = (room, user) :=
  find?_eq_some_iff_of_nodup (fun _ => isRecordOf_iff) hv.members_nodup

theorem Valid.document?_eq_some_iff {user type : String} {d : DocumentRow} :
    t.document? user type = some d ↔ d ∈ t.documents ∧ (d.userId, d.type) = (user, type) :=
  find?_eq_some_iff_of_nodup (by simp) hv.documents_nodup

theorem Valid.member?_of_mem {r : MemberRow} (h : r ∈ t.members) :
    t.member? r.roomId r.userId = some r :=
  hv.member?_eq_some_iff.mpr ⟨h, rfl⟩

theorem Valid.mem_membersOf {room : String} {r : MemberRow} :
    r ∈ t.membersOf room ↔ t.member? room r.userId = some r := by
  simp only [membersOf, List.mem_mergeSort, List.mem_filter, beq_iff_eq]
  constructor
  · rintro ⟨hr, rfl⟩
    exact hv.member?_of_mem hr
  · intro hr
    obtain ⟨hmem, hroom, -⟩ := of_member?_eq_some hr
    exact ⟨hmem, hroom⟩

theorem Valid.nodup_membersOf (room : String) : (t.membersOf room).Nodup :=
  (List.mergeSort_perm _ _).nodup_iff.mpr (hv.members_nodup.of_map.filter _)

/-- The room of a record exists. -/
theorem Valid.room?_isSome_of_member? {room user : String} (h : (t.member? room user).isSome) :
    (t.room? room).isSome := by
  obtain ⟨r, hr⟩ := Option.isSome_iff_exists.mp h
  obtain ⟨hm, rfl, -⟩ := of_member?_eq_some hr
  obtain ⟨room, hroom, hid⟩ := List.mem_map.mp (hv.member_room_mem r hm)
  exact room?_isSome_iff.mpr ⟨room, hroom, hid⟩

/-- A room that does not exist has no records. -/
theorem Valid.member?_eq_none {room : String} (h : t.room? room = none) (user : String) :
    t.member? room user = none := by
  rw [← Option.not_isSome_iff_eq_none]
  intro hm
  have hr := hv.room?_isSome_of_member? hm
  rw [h] at hr
  cases hr

/-- The user of a record is registered. -/
theorem Valid.user?_isSome_of_member? {room user : String} (h : (t.member? room user).isSome) :
    (t.user? user).isSome := by
  obtain ⟨r, hr⟩ := Option.isSome_iff_exists.mp h
  obtain ⟨hm, -, rfl⟩ := of_member?_eq_some hr
  obtain ⟨u, hu, hid⟩ := List.mem_filterMap.mp (hv.member_user_mem r hm)
  exact user?_isSome_iff.mpr ⟨u, hu, hid⟩

end Valid

/-! ### Writes -/

variable (t)

/-- The tables with a user more. -/
def withUser (row : UserRow) : Tables := { t with users := t.users ++ [row] }

/-- The tables with a room more, and with the records that it begins with. -/
def withRoom (room : RoomRow) (records : List MemberRow) : Tables :=
  { t with rooms := t.rooms ++ [room], members := t.members ++ records }

/-- The tables with a record in the place of the one that its user has in its room. -/
def withRecord (row : MemberRow) : Tables :=
  { t with members := t.members.map fun r =>
      if isRecordOf row.roomId row.userId r then row else r }

/-- The tables with a document in the place of the one of its user and type, or added. -/
def withDocument (row : DocumentRow) : Tables :=
  { t with documents :=
      if t.documents.any fun d => d.userId == row.userId && d.type == row.type then
        t.documents.map fun d => if d.userId == row.userId && d.type == row.type then row else d
      else t.documents ++ [row] }

variable {t}

theorem insertUser_eq {row : UserRow} (hb : bound row.texts = .ok ())
    (h : ∀ id, row.id = some id → t.user? id = none) :
    t.insertUser row = .ok (t.withUser row) := by
  rw [insertUser, bound_bind hb]
  rcases hid : row.id with _ | id
  · simp [withUser]
  · simp [withUser, h id hid]

theorem insertUser_eq_error {row : UserRow} {e : Failure} (hb : bound row.texts = .error e) :
    t.insertUser row = .error e := by
  rw [insertUser, hb]
  rfl

theorem putMember_eq {row : MemberRow} (hb : bound row.texts = .ok ())
    (h : (t.member? row.roomId row.userId).isSome) : t.putMember row = .ok (t.withRecord row) := by
  rw [putMember, bound_bind hb, if_pos h]
  rfl

theorem putDocument_eq {row : DocumentRow} (hb : bound row.texts = .ok ())
    (h : (t.user? row.userId).isSome) : t.putDocument row = .ok (t.withDocument row) := by
  have hu : (t.user? row.userId).isNone = false := by simpa using h
  unfold putDocument withDocument
  rw [bound_bind hb, hu, if_neg Bool.false_ne_true]
  split_ifs <;> rfl

theorem putDocument_eq_error {row : DocumentRow} (hb : bound row.texts = .ok ())
    (h : t.user? row.userId = none) : t.putDocument row = .error .constraint := by
  rw [putDocument, bound_bind hb, h]
  rfl

theorem insertRoom_eq {room : RoomRow} (hb : bound room.texts = .ok ())
    (hfree : t.room? room.id = none) (hcreator : (t.user? room.creator).isSome) :
    t.insertRoom room = .ok (t.withRoom room []) := by
  have hu : (t.user? room.creator).isNone = false := by simpa using hcreator
  rw [insertRoom, bound_bind hb]
  simp [withRoom, hfree, hu]

theorem insertRoom_eq_error {room : RoomRow} {e : Failure} (hb : bound room.texts = .error e) :
    t.insertRoom room = .error e := by
  rw [insertRoom, hb]
  rfl

theorem member?_withRoom (room : RoomRow) (rs : List MemberRow) (r user : String) :
    (t.withRoom room rs).member? r user = (t.member? r user).or (rs.find? (isRecordOf r user)) :=
  List.find?_append

section NewRecord
variable {room : RoomRow} {rs : List MemberRow} {row : MemberRow} (hb : bound row.texts = .ok ())
  (hrow : row.roomId = room.id)
include hb hrow

/-- A record is added to a new room where its user has none yet. -/
theorem insertMember_withRoom_eq (hfree : t.member? room.id row.userId = none)
    (huser : (t.user? row.userId).isSome) (hnew : ∀ m ∈ rs, m.userId ≠ row.userId) :
    (t.withRoom room rs).insertMember row = .ok (t.withRoom room (rs ++ [row])) := by
  have hm : (t.withRoom room rs).member? row.roomId row.userId = none := by
    rw [member?_withRoom, hrow, hfree, Option.none_or, List.find?_eq_none]
    intro m hm hk
    exact hnew m hm (Prod.mk.inj (isRecordOf_iff.mp hk)).2
  have hr : ((t.withRoom room rs).room? row.roomId).isNone = false := by
    rw [Option.isNone_eq_false_iff]
    exact room?_isSome_iff.mpr ⟨room, by simp [withRoom], hrow.symm⟩
  have hu : ((t.withRoom room rs).user? row.userId).isNone = false := by
    rw [Option.isNone_eq_false_iff]
    exact huser
  unfold insertMember
  rw [bound_bind hb, hm, hr, hu]
  simp [withRoom]

/-- A second record of a user in a new room is refused. -/
theorem insertMember_withRoom_eq_error
    (hold : ∃ m ∈ rs, m.roomId = room.id ∧ m.userId = row.userId) :
    (t.withRoom room rs).insertMember row = .error .constraint := by
  obtain ⟨m, hm, hroom, huser⟩ := hold
  have hs : ((t.withRoom room rs).member? row.roomId row.userId).isSome := by
    rw [hrow, ← hroom, ← huser]
    exact member?_isSome_of_mem (List.mem_append_right _ hm)
  simp [insertMember, bound_bind hb, hs]

end NewRecord

/-! ### Reading after a write -/

@[simp] theorem member?_withUser (row : UserRow) (room user : String) :
    (t.withUser row).member? room user = t.member? room user := rfl

@[simp] theorem document?_withUser (row : UserRow) (user type : String) :
    (t.withUser row).document? user type = t.document? user type := rfl

theorem user?_withUser (row : UserRow) (id : String) :
    (t.withUser row).user? id = (t.user? id).or (if row.id = some id then some row else none) := by
  simp only [user?, withUser, List.find?_append, List.find?_singleton, beq_iff_eq]

@[simp] theorem user?_withRoom (room : RoomRow) (rs : List MemberRow) (id : String) :
    (t.withRoom room rs).user? id = t.user? id := rfl

@[simp] theorem document?_withRoom (room : RoomRow) (rs : List MemberRow) (user type : String) :
    (t.withRoom room rs).document? user type = t.document? user type := rfl

theorem member?_withRoom_isSome (room : RoomRow) {rs : List MemberRow} {m : MemberRow}
    (hm : m ∈ rs) : ((t.withRoom room rs).member? m.roomId m.userId).isSome :=
  member?_isSome_of_mem (List.mem_append_right t.members hm)

theorem forall_rooms_withRoom {room : RoomRow} {rs : List MemberRow} {P : RoomRow → Prop} :
    (∀ r ∈ (t.withRoom room rs).rooms, P r) ↔ (∀ r ∈ t.rooms, P r) ∧ P room := by
  simp [withRoom, or_imp, forall_and]

theorem forall_members_withRoom {room : RoomRow} {rs : List MemberRow} {P : MemberRow → Prop} :
    (∀ m ∈ (t.withRoom room rs).members, P m) ↔ (∀ m ∈ t.members, P m) ∧ ∀ m ∈ rs, P m := by
  simp [withRoom, or_imp, forall_and]

/-- Records of a new room leave the records of the other rooms as they are. -/
theorem member?_withRoom_of_ne {room : RoomRow} {rs : List MemberRow}
    (hrs : ∀ m ∈ rs, m.roomId = room.id) {r : String} (h : r ≠ room.id) (user : String) :
    (t.withRoom room rs).member? r user = t.member? r user := by
  have hf : rs.find? (isRecordOf r user) = none := by
    rw [List.find?_eq_none]
    intro m hm hk
    exact h ((Prod.mk.inj (isRecordOf_iff.mp hk)).1.symm.trans (hrs m hm))
  rw [member?_withRoom, hf, Option.or_none]

@[simp] theorem user?_withRecord (row : MemberRow) (id : String) :
    (t.withRecord row).user? id = t.user? id := rfl

@[simp] theorem document?_withRecord (row : MemberRow) (user type : String) :
    (t.withRecord row).document? user type = t.document? user type := rfl

theorem member?_withRecord (row : MemberRow) (room user : String) :
    (t.withRecord row).member? room user =
      if (room, user) = (row.roomId, row.userId) then (t.member? room user).map fun _ => row
      else t.member? room user := by
  unfold member? withRecord
  split_ifs with h
  · obtain ⟨rfl, rfl⟩ := Prod.mk.inj h
    exact find?_replace_self (isRecordOf_iff.mpr rfl) t.members
  · refine find?_replace_other ?_ (fun r hr => ?_) t.members
    · rw [Bool.eq_false_iff, ne_eq, isRecordOf_iff]
      exact fun e => h e.symm
    · rw [Bool.eq_false_iff, ne_eq, isRecordOf_iff, isRecordOf_iff.mp hr]
      exact fun e => h e.symm

/-- The record that was written, where there was one. -/
theorem member?_withRecord_self {row : MemberRow} (h : (t.member? row.roomId row.userId).isSome) :
    (t.withRecord row).member? row.roomId row.userId = some row := by
  obtain ⟨old, hold⟩ := Option.isSome_iff_exists.mp h
  rw [member?_withRecord, if_pos rfl, hold]
  rfl

/-- A record leaves the records of the other rooms as they are. -/
theorem membersOf_withRecord_of_ne {row : MemberRow} {room : String} (h : row.roomId ≠ room) :
    (t.withRecord row).membersOf room = t.membersOf room := by
  have hf : (t.withRecord row).members.filter (·.roomId == room) =
      t.members.filter (·.roomId == room) := by
    refine filter_replace_other (by simpa using h) (fun r hr => ?_) t.members
    rw [(Prod.mk.inj (isRecordOf_iff.mp hr)).1]
    simpa using h
  rw [membersOf, hf, membersOf]

theorem keys_withRecord (row : MemberRow) :
    ((t.withRecord row).members.map fun m => (m.roomId, m.userId)) =
      t.members.map fun m => (m.roomId, m.userId) :=
  map_replace (fun _ hr => isRecordOf_iff.mp hr) t.members

/-- The records after a write stand under the same keys as before. -/
theorem member?_withRecord_isSome (row : MemberRow) (room user : String) :
    ((t.withRecord row).member? room user).isSome = (t.member? room user).isSome := by
  rw [member?_withRecord]
  split_ifs <;> simp

@[simp] theorem user?_withDocument (row : DocumentRow) (id : String) :
    (t.withDocument row).user? id = t.user? id := rfl

@[simp] theorem member?_withDocument (row : DocumentRow) (room user : String) :
    (t.withDocument row).member? room user = t.member? room user := rfl

theorem document?_withDocument (row : DocumentRow) (user type : String) :
    (t.withDocument row).document? user type =
      if (user, type) = (row.userId, row.type) then some row else t.document? user type := by
  unfold document? withDocument
  split_ifs with hany hkey hkey
  · obtain ⟨rfl, rfl⟩ := Prod.mk.inj hkey
    rw [find?_replace_self (by simp)]
    have hs : (t.documents.find? fun d => d.userId == row.userId && d.type == row.type).isSome := by
      rw [List.find?_isSome]
      simpa using hany
    obtain ⟨d, hd⟩ := Option.isSome_iff_exists.mp hs
    rw [hd]
    rfl
  · refine find?_replace_other ?_ (fun d hd => ?_) t.documents
    · simp only [Bool.and_eq_false_iff, beq_eq_false_iff_ne]
      by_contra hc
      simp only [not_or, not_not] at hc
      exact hkey (by rw [hc.1, hc.2])
    · simp only [Bool.and_eq_true, beq_iff_eq] at hd
      simp only [Bool.and_eq_false_iff, beq_eq_false_iff_ne]
      by_contra hc
      simp only [not_or, not_not] at hc
      exact hkey (by rw [← hc.1, ← hc.2, hd.1, hd.2])
  · obtain ⟨rfl, rfl⟩ := Prod.mk.inj hkey
    have hn : t.documents.find? (fun d => d.userId == row.userId && d.type == row.type) = none := by
      rw [List.find?_eq_none]
      simpa using hany
    rw [List.find?_append, hn]
    simp
  · rw [List.find?_append, List.find?_singleton, if_neg, Option.or_none]
    simp only [Bool.and_eq_true, beq_iff_eq]
    rintro ⟨rfl, rfl⟩
    exact hkey rfl

theorem document?_withDocument_self (row : DocumentRow) :
    (t.withDocument row).document? row.userId row.type = some row := by
  rw [document?_withDocument, if_pos rfl]

/-! ### Keys and references after a write -/

theorem Valid.withUser (hv : t.Valid) {row : UserRow} (hb : bound row.texts = .ok ())
    (h : ∀ id, row.id = some id → t.user? id = none) : (t.withUser row).Valid := by
  have hids : (t.withUser row).users.filterMap (·.id) =
      t.users.filterMap (·.id) ++ row.id.toList := by
    unfold Tables.withUser
    rw [List.filterMap_append]
    rcases hid : row.id with _ | id <;> simp [hid]
  refine ⟨?_, hv.rooms_nodup, hv.members_nodup, hv.documents_nodup, ?_, hv.member_room_mem, ?_, ?_,
    ?_, hv.rooms_bound⟩
  · rw [hids]
    refine List.Nodup.append hv.users_nodup (by rcases row.id with _ | _ <;> simp) ?_
    intro id hid hrow
    have hfree := h id (by simpa using hrow)
    obtain ⟨u, hu, hu'⟩ := List.mem_filterMap.mp hid
    have hs := user?_isSome_iff.mpr ⟨u, hu, hu'⟩
    rw [hfree] at hs
    cases hs
  · intro r hr
    rw [hids]
    exact List.mem_append_left _ (hv.creator_mem r hr)
  · intro r hr
    rw [hids]
    exact List.mem_append_left _ (hv.member_user_mem r hr)
  · intro d hd
    rw [hids]
    exact List.mem_append_left _ (hv.document_user_mem d hd)
  · intro u hu
    rcases List.mem_append.mp hu with hu | hu
    · exact hv.users_bound u hu
    · rwa [List.mem_singleton.mp hu]

theorem mem_ids_of_user? {id : String} (h : (t.user? id).isSome) :
    id ∈ t.users.filterMap (·.id) := by
  obtain ⟨u, hu, hid⟩ := user?_isSome_iff.mp h
  exact List.mem_filterMap.mpr ⟨u, hu, hid⟩

/-- A new room with records of registered users, each with one. -/
theorem Valid.withRoom (hv : t.Valid) {room : RoomRow} {rs : List MemberRow}
    (hb : bound room.texts = .ok ()) (hfree : t.room? room.id = none)
    (hcreator : (t.user? room.creator).isSome)
    (hrs : ∀ m ∈ rs, m.roomId = room.id ∧ (t.user? m.userId).isSome)
    (hnodup : (rs.map (·.userId)).Nodup) : (t.withRoom room rs).Valid := by
  have hnew : ∀ r ∈ t.rooms, r.id ≠ room.id := fun r hr => ne_of_room?_eq_none hfree hr
  refine ⟨hv.users_nodup, ?_, ?_, hv.documents_nodup, ?_, ?_, ?_, hv.document_user_mem,
    hv.users_bound, forall_rooms_withRoom.mpr ⟨hv.rooms_bound, hb⟩⟩
  · show ((t.rooms ++ [room]).map (·.id)).Nodup
    rw [List.map_append]
    refine List.Nodup.append hv.rooms_nodup (by simp) ?_
    intro id hid hroom
    obtain ⟨r, hr, rfl⟩ := List.mem_map.mp hid
    exact hnew r hr (by simpa using hroom)
  · show ((t.members ++ rs).map fun r => (r.roomId, r.userId)).Nodup
    rw [List.map_append]
    refine List.Nodup.append hv.members_nodup ?_ ?_
    · refine List.Nodup.of_map Prod.snd ?_
      rw [List.map_map]
      exact hnodup
    · intro k hk hk'
      obtain ⟨r, hr, rfl⟩ := List.mem_map.mp hk
      obtain ⟨m, hm, he⟩ := List.mem_map.mp hk'
      obtain ⟨r', hr', hid⟩ := List.mem_map.mp (hv.member_room_mem r hr)
      exact hnew r' hr' (hid.trans ((Prod.mk.inj he).1.symm.trans (hrs m hm).1))
  · intro r hr
    rcases List.mem_append.mp hr with hr | hr
    · exact hv.creator_mem r hr
    · rw [List.mem_singleton.mp hr]
      exact mem_ids_of_user? hcreator
  · intro m hm
    show m.roomId ∈ (t.rooms ++ [room]).map (·.id)
    rw [List.map_append]
    rcases List.mem_append.mp hm with hm | hm
    · exact List.mem_append_left _ (hv.member_room_mem m hm)
    · exact List.mem_append_right _ (by simp [(hrs m hm).1])
  · intro m hm
    rcases List.mem_append.mp hm with hm | hm
    · exact hv.member_user_mem m hm
    · exact mem_ids_of_user? (hrs m hm).2

theorem Valid.withRecord (hv : t.Valid) {row : MemberRow}
    (h : (t.member? row.roomId row.userId).isSome) : (t.withRecord row).Valid := by
  obtain ⟨old, hold⟩ := Option.isSome_iff_exists.mp h
  obtain ⟨hmem, hroom, huser⟩ := of_member?_eq_some hold
  refine ⟨hv.users_nodup, hv.rooms_nodup, ?_, hv.documents_nodup, hv.creator_mem, ?_, ?_,
    hv.document_user_mem, hv.users_bound, hv.rooms_bound⟩
  · rw [keys_withRecord]
    exact hv.members_nodup
  · intro m hm
    obtain ⟨r, hr, rfl⟩ := List.mem_map.mp hm
    split_ifs
    · exact hroom ▸ hv.member_room_mem old hmem
    · exact hv.member_room_mem r hr
  · intro m hm
    obtain ⟨r, hr, rfl⟩ := List.mem_map.mp hm
    split_ifs
    · exact huser ▸ hv.member_user_mem old hmem
    · exact hv.member_user_mem r hr

theorem Valid.withDocument (hv : t.Valid) {row : DocumentRow} (h : (t.user? row.userId).isSome) :
    (t.withDocument row).Valid := by
  refine ⟨hv.users_nodup, hv.rooms_nodup, hv.members_nodup, ?_, hv.creator_mem, hv.member_room_mem,
    hv.member_user_mem, ?_, hv.users_bound, hv.rooms_bound⟩
  · unfold Tables.withDocument
    split_ifs with hany
    · rw [map_replace fun d hd => by simpa using hd]
      exact hv.documents_nodup
    · rw [List.map_append]
      refine List.Nodup.append hv.documents_nodup (by simp) ?_
      intro k hk hk'
      obtain ⟨d, hd, rfl⟩ := List.mem_map.mp hk
      exact hany (List.any_eq_true.mpr ⟨d, hd, by simpa using hk'⟩)
  · intro d hd
    unfold Tables.withDocument at hd
    split_ifs at hd with hany
    · obtain ⟨e, he, rfl⟩ := List.mem_map.mp hd
      split_ifs
      · exact mem_ids_of_user? h
      · exact hv.document_user_mem e he
    · rcases List.mem_append.mp hd with hd | hd
      · exact hv.document_user_mem d hd
      · rw [List.mem_singleton.mp hd]
        exact mem_ids_of_user? h

end Tables

end PairChat.Store
