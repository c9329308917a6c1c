import PairChat.Proofs.Chats

/-!
# Agreement: tables that look the same to an account

Two tables agree for an account if they have the same users, the same documents of the account, and
the same rooms that it has a record in, with all their records.  In all else they may differ.

* An account reads the same from tables that agree: `Agree.roomsIn`, `Agree.membersIn`,
  `Agree.registryIn`, `Agree.counterpartyIn`.
* Its own writes keep tables in agreement: a record (`Agree.withRecord`), a document
  (`Agree.withDocument`), and a room under a name that is free in both (`Agree.withRoom`).
-/

namespace PairChat.Store

open Resolver Account

namespace Tables

variable {t t' : Tables} {me room : String}

/-! ### The order of records -/

theorem isBefore_iff {a b : MemberRow} : isBefore a b ↔
    a.updatedAt < b.updatedAt ∨ a.updatedAt = b.updatedAt ∧ a.userId ≤ b.userId := by
  simp [isBefore]

theorem isBefore_trans {a b c : MemberRow} (hab : isBefore a b) (hbc : isBefore b c) :
    isBefore a c := by
  rw [isBefore_iff] at *
  rcases hab with hab | ⟨hab, hab'⟩ <;> rcases hbc with hbc | ⟨hbc, hbc'⟩
  · exact Or.inl (Nat.lt_trans hab hbc)
  · exact Or.inl (hbc ▸ hab)
  · exact Or.inl (hab ▸ hbc)
  · exact Or.inr ⟨hab.trans hbc, String.le_trans hab' hbc'⟩

theorem isBefore_total (a b : MemberRow) : isBefore a b || isBefore b a := by
  rw [Bool.or_eq_true, isBefore_iff, isBefore_iff]
  rcases Nat.lt_trichotomy a.updatedAt b.updatedAt with h | h | h
  · exact Or.inl (Or.inl h)
  · rcases String.le_total a.userId b.userId with hu | hu
    · exact Or.inl (Or.inr ⟨h, hu⟩)
    · exact Or.inr (Or.inr ⟨h.symm, hu⟩)
  · exact Or.inr (Or.inl h)

theorem userId_eq_of_isBefore {a b : MemberRow} (hab : isBefore a b) (hba : isBefore b a) :
    a.userId = b.userId := by
  rw [isBefore_iff] at *
  rcases hab with hab | ⟨hab, hle⟩
  · omega
  · rcases hba with hba | ⟨-, hle'⟩
    · omega
    · exact String.le_antisymm hle hle'

theorem pairwise_membersOf (t : Tables) (room : String) :
    (t.membersOf room).Pairwise fun a b => isBefore a b := by
  have htrans : ∀ a b c : MemberRow, isBefore a b → isBefore b c → isBefore a c :=
    fun _ _ _ hab hbc => isBefore_trans hab hbc
  exact List.pairwise_mergeSort htrans isBefore_total _

/-! ### Agreement -/

/-- **The tables look the same to the account.** -/
structure Agree (me : String) (t t' : Tables) : Prop where
  valid : t.Valid
  valid' : t'.Valid
  users : t.users = t'.users
  /-- The rooms that the account has a record in are the same, -/
  rooms : t.rooms.filter (fun r => (t.member? r.id me).isSome) =
    t'.rooms.filter fun r => (t'.member? r.id me).isSome
  /-- with all their records. -/
  records : ∀ room, (t.member? room me).isSome ∨ (t'.member? room me).isSome →
    ∀ user, t.member? room user = t'.member? room user
  documents : ∀ type, t.document? me type = t'.document? me type

theorem isSome_of_rows (hm : t.members.filter (fun r => (t.member? r.roomId me).isSome) =
      t'.members.filter fun r => (t'.member? r.roomId me).isSome)
    (hs : (t.member? room me).isSome) : (t'.member? room me).isSome := by
  obtain ⟨r, hr⟩ := Option.isSome_iff_exists.mp hs
  obtain ⟨hmem, hroom, -⟩ := of_member?_eq_some hr
  subst hroom
  have hin : r ∈ t.members.filter fun r => (t.member? r.roomId me).isSome :=
    List.mem_filter.mpr ⟨hmem, hs⟩
  rw [hm] at hin
  exact (List.mem_filter.mp hin).2

/-- Tables agree if the rows that concern the account are the same. -/
theorem agree_of_rows (hv : t.Valid) (hv' : t'.Valid) (hu : t.users = t'.users)
    (hr : t.rooms.filter (fun r => (t.member? r.id me).isSome) =
      t'.rooms.filter fun r => (t'.member? r.id me).isSome)
    (hm : t.members.filter (fun r => (t.member? r.roomId me).isSome) =
      t'.members.filter fun r => (t'.member? r.roomId me).isSome)
    (hd : t.documents.filter (·.userId == me) = t'.documents.filter (·.userId == me)) :
    t.Agree me t' where
  valid := hv
  valid' := hv'
  users := hu
  rooms := hr
  records := fun room hroom user => by
    -- the account is in the room according to both tables
    have hboth : (t.member? room me).isSome ∧ (t'.member? room me).isSome :=
      hroom.elim (fun hs => ⟨hs, isSome_of_rows hm hs⟩) fun hs => ⟨isSome_of_rows hm.symm hs, hs⟩
    have hfind : ∀ t : Tables, (t.member? room me).isSome → t.member? room user =
        (t.members.filter fun r => (t.member? r.roomId me).isSome).find?
          (isRecordOf room user) := by
      intro t hs
      refine (find?_filter_of_imp (fun r hk => ?_) t.members).symm
      rw [(Prod.mk.inj (isRecordOf_iff.mp hk)).1]
      exact hs
    rw [hfind t hboth.1, hfind t' hboth.2, hm]
  documents := fun type => by
    have hfind : ∀ t : Tables, t.document? me type =
        (t.documents.filter (·.userId == me)).find? fun d => d.userId == me && d.type == type :=
      fun t => (find?_filter_of_imp (fun d hk => (Bool.and_eq_true_iff.mp hk).1) t.documents).symm
    rw [hfind t, hfind t', hd]

namespace Agree

variable (h : t.Agree me t')
include h

/-! ### What the account reads -/

theorem user? (id : String) : t.user? id = t'.user? id := by
  rw [Tables.user?, h.users, Tables.user?]

/-- The account has the same records of its own, also where it has none. -/
theorem member?_self (room : String) : t.member? room me = t'.member? room me := by
  by_cases hm : (t.member? room me).isSome ∨ (t'.member? room me).isSome
  · exact h.records room hm me
  · rw [not_or, Option.not_isSome_iff_eq_none, Option.not_isSome_iff_eq_none] at hm
    rw [hm.1, hm.2]

theorem document (type : String) : t.document me type = t'.document me type := by
  rw [document_eq, document_eq, h.documents]

/-- The records of a room that the account is in stand in the same order. -/
theorem membersOf (hm : (t.member? room me).isSome) : t.membersOf room = t'.membersOf room := by
  have hrows : ∀ r, r ∈ t.membersOf room ↔ r ∈ t'.membersOf room := by
    intro r
    rw [h.valid.mem_membersOf, h.valid'.mem_membersOf, h.records room (Or.inl hm)]
  refine List.Perm.eq_of_pairwise (fun a b ha hb hab hba => ?_) (pairwise_membersOf t room)
    (pairwise_membersOf t' room) ?_
  · -- of one user there is one record in the room
    have ha := h.valid'.mem_membersOf.mp ((hrows a).mp ha)
    have hb := h.valid'.mem_membersOf.mp hb
    rw [userId_eq_of_isBefore hab hba] at ha
    exact Option.some.inj (ha.symm.trans hb)
  · exact (List.perm_ext_iff_of_nodup (h.valid.nodup_membersOf room)
      (h.valid'.nodup_membersOf room)).mpr hrows

theorem membersIn (hm : (t.member? room me).isSome) : membersIn room t = membersIn room t' := by
  rw [Account.membersIn, Account.membersIn, h.membersOf hm]

theorem roomIn (hm : (t.member? room me).isSome) (word : String) :
    roomIn room word t = roomIn room word t' := by
  rw [Account.roomIn, Account.roomIn, h.membersIn hm]

/-- **The account sees the same rooms.** -/
theorem roomsIn : roomsIn me t = roomsIn me t' := by
  have hseen : ∀ t : Tables, Account.roomsIn me t =
      (t.rooms.filter fun row => (t.member? row.id me).isSome).filterMap fun row =>
        (t.member? row.id me).bind fun r => Account.roomIn row.id r.membership t := by
    intro t
    rw [roomsIn_eq, List.filterMap_filter]
    refine List.filterMap_congr fun row _ => ?_
    rcases t.member? row.id me with _ | r <;> rfl
  rw [hseen t, hseen t', h.rooms]
  refine List.filterMap_congr fun row hrow => ?_
  have hm : (t.member? row.id me).isSome := by
    rw [h.member?_self]
    exact (List.mem_filter.mp hrow).2
  rw [← h.member?_self]
  simp only [h.roomIn hm]

theorem registryIn : registryIn me t = registryIn me t' := by
  rw [Account.registryIn, Account.registryIn, h.document]

theorem blockListIn : blockListIn me t = blockListIn me t' := by
  rw [Account.blockListIn, Account.blockListIn, h.document]

theorem listedIn (owner : Value) : listedIn me owner t = listedIn me owner t' := by
  rw [Account.listedIn, Account.listedIn, h.registryIn]

theorem counterpartyIn (server handle : String) (purpose : Purpose) :
    counterpartyIn server handle purpose t = counterpartyIn server handle purpose t' := by
  rw [Account.counterpartyIn, Account.counterpartyIn, h.user?]

/-! ### What the account writes -/

theorem withRecord {row : MemberRow} (hu : row.userId = me)
    (hm : (t.member? row.roomId me).isSome) : (t.withRecord row).Agree me (t'.withRecord row) where
  valid := h.valid.withRecord (hu.symm ▸ hm)
  valid' := h.valid'.withRecord (hu.symm ▸ h.member?_self row.roomId ▸ hm)
  users := h.users
  rooms := by
    simp only [member?_withRecord_isSome]
    exact h.rooms
  records := fun room hroom user => by
    rw [member?_withRecord_isSome, member?_withRecord_isSome] at hroom
    rw [member?_withRecord, member?_withRecord, h.records room hroom]
  documents := h.documents

theorem withDocument {row : DocumentRow} (hu : (t.user? row.userId).isSome) :
    (t.withDocument row).Agree me (t'.withDocument row) where
  valid := h.valid.withDocument hu
  valid' := h.valid'.withDocument (h.user? row.userId ▸ hu)
  users := h.users
  rooms := h.rooms
  records := h.records
  documents := fun type => by rw [document?_withDocument, document?_withDocument, h.documents]

/-- A new room in which the account has a record. -/
theorem withRoom {row : RoomRow} {rs : List MemberRow} (hb : bound row.texts = .ok ())
    (hfree : t.room? row.id = none) (hfree' : t'.room? row.id = none)
    (hcreator : (t.user? row.creator).isSome)
    (hrs : ∀ m ∈ rs, m.roomId = row.id ∧ (t.user? m.userId).isSome)
    (hnodup : (rs.map (·.userId)).Nodup) (hme : ∃ m ∈ rs, m.userId = me) :
    (t.withRoom row rs).Agree me (t'.withRoom row rs) where
  valid := h.valid.withRoom hb hfree hcreator hrs hnodup
  valid' := by
    refine h.valid'.withRoom hb hfree' (h.user? _ ▸ hcreator) (fun m hm => ?_) hnodup
    exact ⟨(hrs m hm).1, h.user? _ ▸ (hrs m hm).2⟩
  users := h.users
  rooms := by
    have hseen : ∀ t : Tables, t.room? row.id = none →
        (t.withRoom row rs).rooms.filter
          (fun r => ((t.withRoom row rs).member? r.id me).isSome) =
        t.rooms.filter (fun r => (t.member? r.id me).isSome) ++ [row] := by
      intro t hfree
      have hnew : ((t.withRoom row rs).member? row.id me).isSome := by
        obtain ⟨m, hm, rfl⟩ := hme
        rw [← (hrs m hm).1]
        exact member?_withRoom_isSome row hm
      show (t.rooms ++ [row]).filter _ = _
      rw [List.filter_append, List.filter_singleton, hnew, cond_true]
      congr 1
      refine List.filter_congr fun r hr => ?_
      rw [member?_withRoom_of_ne fun m hm => (hrs m hm).1]
      exact ne_of_room?_eq_none hfree hr
    rw [hseen t hfree, hseen t' hfree', h.rooms]
  records := fun room hroom user => by
    by_cases hid : room = row.id
    · subst hid
      rw [member?_withRoom, member?_withRoom, h.valid.member?_eq_none hfree,
        h.valid'.member?_eq_none hfree']
    · have hold := fun m hm => (hrs m hm).1
      rw [member?_withRoom_of_ne hold hid, member?_withRoom_of_ne hold hid] at hroom ⊢
      exact h.records room hroom user
  documents := h.documents

end Agree

end Tables

end PairChat.Store
