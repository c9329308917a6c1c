import PairChat.Store
import PairChat.Proofs.Outcome
import PairChat.Proofs.Rows

/-!
# Statements: what they leave in a store

The outcome of each statement on a store, as a write of rows to the tables that are read.

* A statement that takes an instant and commits leaves `Store.wrote`: `outcome_createUser`,
  `outcome_setMembership`, `outcome_setDocument`.
* A statement with a text that cannot be encoded fails at it, and writes nothing
  (`outcome_lookUp_error`, `outcome_createUser_unnamed`, `outcome_createRoom_unnamed`).
* A room is made in one commit (`outcome_createRoom_all`).  Where somebody would get a second
  record in it, the statement fails at this record, and the room stays written and not committed,
  with the records before it (`outcome_createRoom_twice`).
* The rooms of two people are the case of one guest: `outcome_createRoom`, and
  `outcome_createRoom_self` where the guest is the maker.
-/

namespace PairChat.Store

open PairChat.Action

variable {s : Store}

/-- The name of the room with a number. -/
def roomName (server : String) (number : Nat) : String :=
  "!room" ++ toString number ++ ":" ++ server

theorem roomName_injective {server : String} {m n : Nat}
    (h : roomName server m = roomName server n) : m = n := by
  have hl := congrArg String.toList h
  simp only [roomName, String.toList_append, List.append_cancel_right_eq,
    List.append_cancel_left_eq, Nat.toString_eq_ofList_toDigits, String.toList_ofList] at hl
  have hn := congrArg (fun ds => Nat.ofDigitChars 10 ds 0) hl
  simpa using hn

/-- The name of a room can be encoded if the name of its server can. -/
@[simp] theorem isEncodable_roomName (server : String) (number : Nat) :
    Text.isEncodable (roomName server number) = Text.isEncodable server := by
  have hdigit : ∀ c ∈ (toString number).toList, c ≠ Text.halfMark := by
    intro c hc e
    rw [Nat.toString_eq_ofList_toDigits, String.toList_ofList] at hc
    have hd := Nat.isDigit_of_mem_toDigits (by decide) (by decide) hc
    rw [e] at hd
    exact absurd hd (by decide)
  rw [Text.isEncodable, roomName, String.toList_append, Text.isWhole_append]
  · rfl
  · simp only [String.toList_append, List.mem_append, not_or]
    exact ⟨⟨by decide, fun h => hdigit _ h rfl⟩, by decide⟩

/-- The store after a statement that took an instant and committed these tables. -/
def wrote (s : Store) (t : Tables) : Store :=
  { s with saved := t, pending := none, clock := s.clock + 1 }

@[simp] theorem live_wrote (t : Tables) : (s.wrote t).live = t := rfl

@[simp] theorem live_stage (t : Tables) : (s.stage t).live = t := rfl

@[simp] theorem saved_wrote (t : Tables) : (s.wrote t).saved = t := rfl

@[simp] theorem clock_wrote (t : Tables) : (s.wrote t).clock = s.clock + 1 := rfl

@[simp] theorem nextRoom_wrote (t : Tables) : (s.wrote t).nextRoom = s.nextRoom := rfl

@[simp] theorem outcome_query {α : Type} (f : Tables → α) :
    (query f).outcome s = (.ok (f s.live), s) := rfl

theorem isRead_query {α : Type} (f : Tables → α) : (query f).IsRead := fun _ => rfl

theorem outcome_lookUp {α : Type} {texts : List String} (f : Tables → α)
    (h : bound texts = .ok ()) : (lookUp texts f).outcome s = (.ok (f s.live), s) := by
  simp only [lookUp, outcome_bind, outcome_lift, h, outcome_query]

theorem outcome_lookUp_error {α : Type} {texts : List String} {e : Failure} (f : Tables → α)
    (h : bound texts = .error e) : (lookUp texts f).outcome s = (.error e, s) := by
  simp only [lookUp, outcome_bind, outcome_lift, h]

theorem isRead_lookUp {α : Type} (texts : List String) (f : Tables → α) :
    (lookUp texts f).IsRead :=
  (isRead_lift _).bind fun _ => isRead_query f

@[simp] theorem outcome_save : save.outcome s = (.ok (), s.commit s.live) := rfl

@[simp] theorem outcome_now : now.outcome s = (.ok s.clock, { s with clock := s.clock + 1 }) := rfl

theorem outcome_insert_eq (f : Tables → Except Failure Tables) :
    (insert f).outcome s = match f s.live with
      | .ok t => (.ok (), s.stage t)
      | .error e => (.error e, s) := by
  rcases h : f s.live with e | t <;> simp [insert, outcome_bind, h]

theorem outcome_insert {f : Tables → Except Failure Tables} {t : Tables} (h : f s.live = .ok t) :
    (insert f).outcome s = (.ok (), s.stage t) := by
  rw [outcome_insert_eq, h]

theorem outcome_insert_error {f : Tables → Except Failure Tables} {e : Failure}
    (h : f s.live = .error e) : (insert f).outcome s = (.error e, s) := by
  rw [outcome_insert_eq, h]

/-! ### Users -/

/-- The texts of a user with an identifier and a name can be encoded. -/
theorem bound_user {id name : String} (time : Nat) (hid : Text.isEncodable id)
    (hname : Text.isEncodable name) :
    bound (UserRow.texts ⟨some id, some name, time⟩) = .ok () := by
  refine bound_eq_ok_iff.mpr fun text htext => ?_
  rcases List.mem_pair.mp htext with rfl | rfl
  · exact hid
  · exact hname

section CreateUser
variable {id : String} (hid : Text.isEncodable id)
include hid

theorem outcome_createUser {name : String} (hname : Text.isEncodable name)
    (h : s.live.user? id = none) :
    (createUser (some id) (some name)).outcome s =
      (.ok ⟨some id, some name, s.clock⟩,
        s.wrote (s.live.withUser ⟨some id, some name, s.clock⟩)) := by
  have hrow : s.live.insertUser ⟨some id, some name, s.clock⟩ = .ok (s.live.withUser _) :=
    Tables.insertUser_eq (bound_user _ hid hname) fun _ e => Option.some.inj e ▸ h
  have hins := outcome_insert (s := { s with clock := s.clock + 1 }) (f := (·.insertUser _)) hrow
  simp only [createUser, outcome_bind, outcome_lookUp _ (bound_singleton hid), h,
    Option.isSome_none, Bool.false_eq_true, if_false, outcome_pure, outcome_now, hins, outcome_save]
  rfl

/-- A name that cannot be encoded is found once the row is written. -/
theorem outcome_createUser_unnamed {name : String} (hname : Text.isEncodable name = false)
    (h : s.live.user? id = none) : (createUser (some id) (some name)).outcome s =
      (.error (.unencodable name), { s with clock := s.clock + 1 }) := by
  have hrow : s.live.insertUser ⟨some id, some name, s.clock⟩ = .error (.unencodable name) :=
    Tables.insertUser_eq_error (bound_eq_error [id] [] (by simpa using hid) hname)
  have hins :=
    outcome_insert_error (s := { s with clock := s.clock + 1 }) (f := (·.insertUser _)) hrow
  simp only [createUser, outcome_bind, outcome_lookUp _ (bound_singleton hid), h,
    Option.isSome_none, Bool.false_eq_true, if_false, outcome_now, hins]

theorem outcome_createUser_taken {name : Option String} (h : (s.live.user? id).isSome) :
    (createUser (some id) name).outcome s = (.error (.row (.userExists id)), s) := by
  simp only [createUser, outcome_bind, outcome_lookUp _ (bound_singleton hid), h, if_true,
    outcome_throw]

end CreateUser

theorem outcome_createUser_unencodable {id : String} {name : Option String}
    (hid : Text.isEncodable id = false) :
    (createUser (some id) name).outcome s = (.error (.unencodable id), s) := by
  have hb : bound [id] = .error (.unencodable id) := bound_eq_error [] [] (by simp) hid
  simp only [createUser, outcome_bind, outcome_lookUp_error _ hb]

/-! ### Records -/

/-- The record that a user without the direct flag gets in a room. -/
def record (s : Store) (room user word : String) : MemberRow :=
  ⟨room, user, word, (s.live.user? user).bind (·.displayName), none, s.clock⟩

/-- A record can be written if the user is registered. -/
theorem Tables.Valid.bound_record (hv : s.live.Valid) {room user word : String}
    (hroom : Text.isEncodable room) (huser : Text.isEncodable user)
    (hword : Text.isEncodable word) : bound (s.record room user word).texts = .ok () := by
  refine bound_eq_ok_iff.mpr fun text htext => ?_
  rcases List.mem_append.mp htext with htext | hname
  · simp only [record, List.mem_cons, List.not_mem_nil, or_false] at htext
    rcases htext with rfl | rfl | rfl <;> assumption
  · obtain ⟨u, hu, hname⟩ := Option.bind_eq_some_iff.mp (Option.mem_toList.mp hname)
    exact hv.isEncodable_displayName hu hname

theorem outcome_setMembership {room user word : String}
    (hb : bound (s.record room user word).texts = .ok ()) (h : (s.live.member? room user).isSome) :
    (setMembership room user word none).outcome s =
      (.ok (s.record room user word), s.wrote (s.live.withRecord (s.record room user word))) := by
  have hrow : s.live.putMember (s.record room user word) = .ok (s.live.withRecord _) :=
    Tables.putMember_eq hb h
  have hins := outcome_insert (s := { s with clock := s.clock + 1 }) (f := (·.putMember _)) hrow
  have huser : Text.isEncodable user :=
    bound_eq_ok_iff.mp hb user (by simp [record, MemberRow.texts])
  simp only [setMembership, outcome_bind, outcome_lookUp _ (bound_singleton huser), outcome_now]
  simp only [record] at hins
  rw [hins]
  rfl

/-! ### Documents -/

section SetDocument
variable {user type : String} (huser : Text.isEncodable user) (htype : Text.isEncodable type)
  (content : Value)
include huser htype

theorem bound_document : bound (DocumentRow.texts ⟨user, type, content⟩) = .ok () := by
  refine bound_eq_ok_iff.mpr fun text htext => ?_
  rcases List.mem_pair.mp htext with rfl | rfl <;> assumption

theorem outcome_setDocument (h : (s.live.user? user).isSome) :
    (setDocument user type content).outcome s =
      (.ok (), s.wrote (s.live.withDocument ⟨user, type, content⟩)) := by
  have hrow : s.live.putDocument ⟨user, type, content⟩ = .ok (s.live.withDocument _) :=
    Tables.putDocument_eq (bound_document huser htype content) h
  have hins := outcome_insert (s := { s with clock := s.clock + 1 }) (f := (·.putDocument _)) hrow
  simp only [setDocument, outcome_bind, outcome_now, hins, outcome_save]
  rfl

theorem outcome_setDocument_unknown (h : s.live.user? user = none) :
    (setDocument user type content).outcome s =
      (.error .constraint, { s with clock := s.clock + 1 }) := by
  have hrow : s.live.putDocument ⟨user, type, content⟩ = .error .constraint :=
    Tables.putDocument_eq_error (bound_document huser htype content) h
  have hins :=
    outcome_insert_error (s := { s with clock := s.clock + 1 }) (f := (·.putDocument _)) hrow
  simp only [setDocument, outcome_bind, outcome_now, hins]

end SetDocument

/-! ### Rooms -/

theorem isRead_requireUser (id : Option String) (fault : String → RowFault) :
    (requireUser id fault).IsRead := by
  rcases id with _ | id
  · exact isRead_throw _
  · refine (isRead_lookUp _ _).bind fun row => ?_
    rcases row with _ | row
    · exact isRead_throw _
    · exact isRead_pure _

theorem outcome_requireUser (hv : s.live.Valid) {id : String} {u : UserRow}
    (fault : String → RowFault) (h : s.live.user? id = some u) :
    (requireUser (some id) fault).outcome s = (.ok (id, u), s) := by
  have hid : Text.isEncodable id := hv.isEncodable_of_user? (by rw [h]; rfl)
  simp only [requireUser, outcome_bind, outcome_lookUp _ (bound_singleton hid), h, outcome_pure]

/-- Why a user whom nobody knows is not found. -/
def unknown (fault : String → RowFault) (id : String) : Failure :=
  if Text.isEncodable id then .row (fault id) else .unencodable id

theorem outcome_requireUser_unknown {id : String} (fault : String → RowFault)
    (h : s.live.user? id = none) :
    (requireUser (some id) fault).outcome s = (.error (unknown fault id), s) := by
  unfold unknown
  split_ifs with hid
  · simp only [requireUser, outcome_bind, outcome_lookUp _ (bound_singleton hid), h, outcome_throw]
  · have hb : bound [id] = .error (.unencodable id) :=
      bound_eq_error [] [] (by simp) (by simpa using hid)
    simp only [requireUser, outcome_bind, outcome_lookUp_error _ hb]

theorem outcome_createRoom_unknown {me : String} (server : String) (invited : List (Option String))
    (isDirect : Option Bool) (h : s.live.user? me = none) :
    (createRoom (some me) server invited isDirect).outcome s =
      (.error (unknown .noCreator me), s) := by
  rw [createRoom, outcome_bind_error (outcome_requireUser_unknown .noCreator h)]

/-- The row of the next room. -/
def nextRoomRow (s : Store) (server me : String) (isDirect : Bool) : RoomRow :=
  ⟨roomName server s.nextRoom, me, isDirect, s.clock⟩

/-- The record of the maker of the next room. -/
def makerRecord (s : Store) (server me : String) : MemberRow :=
  s.record (roomName server s.nextRoom) me Membership.joined.wire

/-- The record of a guest of the next room. A room that is not direct says nothing there. -/
def guestRecord (s : Store) (server : String) (isDirect : Bool) (user : String) : MemberRow :=
  { s.record (roomName server s.nextRoom) user Membership.invited.wire with
    isDirect := if isDirect then some true else none }

/-- The records that the next room begins with. -/
def firstRecords (s : Store) (server me : String) (isDirect : Bool) (guests : List String) :
    List MemberRow :=
  s.makerRecord server me :: guests.map (s.guestRecord server isDirect)

/-- The store after the next room took its number and its instant. -/
def numbered (s : Store) : Store := { s with clock := s.clock + 1, nextRoom := s.nextRoom + 1 }

/-- The tables with the next room and the records that it begins with. -/
def withNextRoom (s : Store) (server me : String) (isDirect : Bool) (guests : List String) :
    Tables :=
  s.live.withRoom (s.nextRoomRow server me isDirect) (s.firstRecords server me isDirect guests)

/-! ### The texts of a room -/

namespace Tables.Valid

variable (hv : s.live.Valid) {server user : String} (hserver : Text.isEncodable server)
  (isDirect : Bool) (huser : (s.live.user? user).isSome)
include hv hserver huser

theorem bound_nextRoomRow : bound (s.nextRoomRow server user isDirect).texts = .ok () := by
  refine bound_eq_ok_iff.mpr fun text htext => ?_
  rcases List.mem_pair.mp htext with rfl | rfl
  · rwa [nextRoomRow, isEncodable_roomName]
  · exact hv.isEncodable_of_user? huser

omit isDirect in
theorem bound_makerRecord : bound (s.makerRecord server user).texts = .ok () :=
  hv.bound_record (by rwa [isEncodable_roomName]) (hv.isEncodable_of_user? huser) (by decide)

/-- The direct flag is no text. -/
theorem bound_guestRecord : bound (s.guestRecord server isDirect user).texts = .ok () := by
  have hb : bound (s.record (roomName server s.nextRoom) user Membership.invited.wire).texts =
      .ok () :=
    hv.bound_record (by rwa [isEncodable_roomName]) (hv.isEncodable_of_user? huser) (by decide)
  exact hb

end Tables.Valid

section Insert
variable {t : Tables} {room : RoomRow} {rs rows : List MemberRow}
  (hrows : ∀ m ∈ rows, bound m.texts = .ok () ∧ m.roomId = room.id ∧ (t.user? m.userId).isSome)
  (hfree : ∀ user, t.member? room.id user = none)
include hrows hfree

/-- Records of different users are written to a new room one by one. -/
theorem outcome_insertMembers (s : Store) (hnodup : ((rs ++ rows).map (·.userId)).Nodup) :
    (rows.forM fun m => insert (·.insertMember m)).outcome (s.stage (t.withRoom room rs)) =
      (.ok (), s.stage (t.withRoom room (rs ++ rows))) := by
  induction rows generalizing rs with
  | nil => simp
  | cons m rows ih =>
    obtain ⟨hb, hroom, huser⟩ := hrows m List.mem_cons_self
    have hnew : ∀ x ∈ rs, x.userId ≠ m.userId := by
      intro x hx e
      rw [List.map_append] at hnodup
      exact (List.nodup_append.mp hnodup).2.2 _ (List.mem_map_of_mem hx) _
        (List.mem_map_of_mem List.mem_cons_self) e
    have hins := outcome_insert (s := s.stage (t.withRoom room rs)) (f := (·.insertMember m))
      (Tables.insertMember_withRoom_eq hb hroom (hfree _) huser hnew)
    show (insert (·.insertMember m) >>= fun _ =>
      rows.forM fun m => insert (·.insertMember m)).outcome _ = _
    rw [outcome_bind_ok hins]
    have hnodup' : ((rs ++ [m] ++ rows).map (·.userId)).Nodup := by rwa [List.append_assoc]
    have hrest := ih (fun x hx => hrows x (List.mem_cons_of_mem m hx)) hnodup'
    rwa [List.append_assoc] at hrest

end Insert

/-! ### Making a room -/

section Guests
variable (hv : s.live.Valid) {guests : List String}
include hv

/-- The guests of a room are looked up in order. -/
theorem outcome_requireGuests (h : ∀ g ∈ guests, (s.live.user? g).isSome) :
    ∃ found, ((guests.map some).mapM fun id => requireUser id .noInvitee).outcome s =
      (.ok found, s) ∧ found.map Prod.fst = guests ∧ ∀ x ∈ found, s.live.user? x.1 = some x.2 := by
  have hread : ∀ g ∈ guests, ∃ x, (requireUser (some g) .noInvitee).outcome s = (.ok x, s) ∧
      x.1 = g ∧ s.live.user? x.1 = some x.2 := by
    intro g hg
    obtain ⟨u, hu⟩ := Option.isSome_iff_exists.mp (h g hg)
    exact ⟨(g, u), outcome_requireUser hv .noInvitee hu, rfl, hu⟩
  obtain ⟨found, hfound, hnames, hrows⟩ := exists_mapM_eq_ok
    (f := fun g => ((requireUser (some g) .noInvitee).outcome s).1) Prod.fst id
    (fun x => s.live.user? x.1 = some x.2) guests fun g hg => by
      obtain ⟨x, hx, hx'⟩ := hread g hg
      exact ⟨x, by rw [hx], hx'⟩
  refine ⟨found, ?_, hnames.trans (List.map_id _), hrows⟩
  rw [List.mapM_map, outcome_mapM_of_fixed, hfound]
  intro g hg
  obtain ⟨x, hx, -⟩ := hread g hg
  rw [Function.comp_apply, hx]

/-- The first guest that nobody knows is named. -/
theorem outcome_requireGuests_unknown {before after : List String} {g : String}
    (hbefore : ∀ x ∈ before, (s.live.user? x).isSome) (hg : s.live.user? g = none) :
    (((before ++ g :: after).map some).mapM fun id => requireUser id .noInvitee).outcome s =
      (.error (unknown .noInvitee g), s) := by
  have hknown : ∀ x ∈ before, ∃ u, s.live.user? x = some u :=
    fun x hx => Option.isSome_iff_exists.mp (hbefore x hx)
  rw [List.mapM_map, outcome_mapM_of_fixed
    (g := fun x => ((requireUser (some x) .noInvitee).outcome s).1)]
  · refine congrArg (·, s) (mapM_eq_error_of_append ?_ after before fun x hx => ?_)
    · rw [outcome_requireUser_unknown .noInvitee hg]
    · obtain ⟨u, hu⟩ := hknown x hx
      exact ⟨(x, u), by rw [outcome_requireUser hv .noInvitee hu]⟩
  · intro x _
    rcases hx : s.live.user? x with _ | u
    · rw [Function.comp_apply, outcome_requireUser_unknown .noInvitee hx]
    · rw [Function.comp_apply, outcome_requireUser hv .noInvitee hx]

theorem outcome_createRoom_noGuest {server me g : String} {isDirect : Option Bool}
    (before after : List String) (hme : (s.live.user? me).isSome)
    (hbefore : ∀ x ∈ before, (s.live.user? x).isSome) (hg : s.live.user? g = none) :
    (createRoom (some me) server ((before ++ g :: after).map some) isDirect).outcome s =
      (.error (unknown .noInvitee g), s) := by
  obtain ⟨u, hu⟩ := Option.isSome_iff_exists.mp hme
  rw [createRoom, outcome_bind_ok (outcome_requireUser hv .noCreator hu)]
  exact outcome_bind_error (outcome_requireGuests_unknown hv hbefore hg)

end Guests

/-- Everything but the rows is there when the next room takes its number. -/
theorem outcome_createRoom_eq_insert (hv : s.live.Valid) {server me : String} {isDirect : Bool}
    {guests : List String} (hme : (s.live.user? me).isSome)
    (hguests : ∀ g ∈ guests, (s.live.user? g).isSome) :
    (createRoom (some me) server (guests.map some) (some isDirect)).outcome s =
      (insert (·.insertRoom (s.nextRoomRow server me isDirect)) >>= fun _ =>
        insert (·.insertMember (s.makerRecord server me)) >>= fun _ =>
        (guests.map (s.guestRecord server isDirect)).forM (fun m => insert (·.insertMember m)) >>=
        fun _ => save >>= fun _ => pure (s.nextRoomRow server me isDirect)).outcome s.numbered := by
  obtain ⟨u, hu⟩ := Option.isSome_iff_exists.mp hme
  obtain ⟨found, hfound, hnames, hrows⟩ := outcome_requireGuests hv hguests
  have hrecords : guests.map (s.guestRecord server isDirect) = found.map fun x =>
      (⟨roomName server s.nextRoom, x.1, Membership.invited.wire, x.2.displayName,
        if isDirect then some true else none, s.clock⟩ : MemberRow) := by
    rw [← hnames, List.map_map]
    refine List.map_congr_left fun x hx => ?_
    simp only [Function.comp_apply, guestRecord, record, hrows x hx, Option.bind_some]
  have hloop : ((guests.map (s.guestRecord server isDirect)).forM fun m =>
      insert (·.insertMember m)) = found.forM fun x => insert (·.insertMember
        ⟨roomName server s.nextRoom, x.1, Membership.invited.wire, x.2.displayName,
          if isDirect then some true else none, s.clock⟩) := by
    rw [hrecords]
    exact List.forM_map
  rw [hloop]
  simp only [makerRecord, record, hu, Option.bind_some]
  simp only [createRoom, outcome_bind, outcome_requireUser hv .noCreator hu, hfound, freshRoom,
    outcome_getState, outcome_setState, outcome_pure, outcome_now, outcome_lift, decided]
  rfl

section Room
variable (hv : s.live.Valid) {server me : String} {isDirect : Bool} {guests : List String}
  (hme : (s.live.user? me).isSome) (hguests : ∀ g ∈ guests, (s.live.user? g).isSome)
include hv hme hguests

/-- A room whose server has a name that cannot be encoded is not made. Its number is taken. -/
theorem outcome_createRoom_unnamed (hserver : Text.isEncodable server = false) :
    (createRoom (some me) server (guests.map some) (some isDirect)).outcome s =
      (.error (.unencodable (roomName server s.nextRoom)), s.numbered) := by
  have hname : Text.isEncodable (roomName server s.nextRoom) = false := by
    rwa [isEncodable_roomName]
  have hrow : s.numbered.live.insertRoom (s.nextRoomRow server me isDirect) =
      .error (.unencodable (roomName server s.nextRoom)) :=
    Tables.insertRoom_eq_error (bound_eq_error [] [me] (by simp) hname)
  rw [outcome_createRoom_eq_insert hv hme hguests]
  exact outcome_bind_error (outcome_insert_error hrow)

variable (hserver : Text.isEncodable server)
  (hroom : s.live.room? (roomName server s.nextRoom) = none)
include hserver hroom

omit hme in
/-- The records of different guests are written one by one. -/
theorem outcome_writeGuests (hnodup : (me :: guests).Nodup) :
    ((guests.map (s.guestRecord server isDirect)).forM fun m => insert (·.insertMember m)).outcome
        (s.numbered.stage (s.withNextRoom server me isDirect [])) =
      (.ok (), s.numbered.stage (s.withNextRoom server me isDirect guests)) := by
  have hrows : ∀ m ∈ guests.map (s.guestRecord server isDirect), bound m.texts = .ok () ∧
      m.roomId = (s.nextRoomRow server me isDirect).id ∧ (s.live.user? m.userId).isSome := by
    intro m hm
    obtain ⟨g, hg, rfl⟩ := List.mem_map.mp hm
    exact ⟨hv.bound_guestRecord hserver isDirect (hguests g hg), rfl, hguests g hg⟩
  have hkeys : ((s.firstRecords server me isDirect [] ++
      guests.map (s.guestRecord server isDirect)).map (·.userId)).Nodup := by
    show (me :: (guests.map (s.guestRecord server isDirect)).map (·.userId)).Nodup
    rw [List.map_map]
    exact (List.map_id guests).symm ▸ hnodup
  exact outcome_insertMembers hrows (hv.member?_eq_none hroom) s.numbered hkeys

/-- Making a room comes down to the records of the guests, which are written last. -/
theorem outcome_createRoom_eq :
    (createRoom (some me) server (guests.map some) (some isDirect)).outcome s =
      ((guests.map (s.guestRecord server isDirect)).forM (fun m => insert (·.insertMember m)) >>=
        fun _ => save >>= fun _ => pure (s.nextRoomRow server me isDirect)).outcome
          (s.numbered.stage (s.withNextRoom server me isDirect [])) := by
  have hrow : s.numbered.live.insertRoom (s.nextRoomRow server me isDirect) =
      .ok (s.live.withRoom (s.nextRoomRow server me isDirect) []) :=
    Tables.insertRoom_eq (hv.bound_nextRoomRow hserver isDirect hme) hroom hme
  have hmaker : (s.live.withRoom (s.nextRoomRow server me isDirect) []).insertMember
      (s.makerRecord server me) = .ok (s.withNextRoom server me isDirect []) :=
    Tables.insertMember_withRoom_eq (hv.bound_makerRecord hserver hme) rfl
      (hv.member?_eq_none hroom _) hme (by simp)
  rw [outcome_createRoom_eq_insert hv hme hguests, outcome_bind_ok (outcome_insert hrow),
    outcome_bind_ok (outcome_insert (s := s.numbered.stage _) hmaker)]
  rfl

/-- **A room is made in one commit**, with a record for everybody. -/
theorem outcome_createRoom_all (hnodup : (me :: guests).Nodup) :
    (createRoom (some me) server (guests.map some) (some isDirect)).outcome s =
      (.ok (s.nextRoomRow server me isDirect),
        s.numbered.commit (s.withNextRoom server me isDirect guests)) := by
  rw [outcome_createRoom_eq hv hme hguests hserver hroom,
    outcome_bind_ok (outcome_writeGuests hv hguests hserver hroom hnodup)]
  rfl

end Room

/-- **Nobody gets a second record**: the room and the records before it stay written. -/
theorem outcome_createRoom_twice (hv : s.live.Valid) {server me guest : String} {isDirect : Bool}
    (before after : List String) (hme : (s.live.user? me).isSome)
    (hguests : ∀ g ∈ before ++ guest :: after, (s.live.user? g).isSome)
    (hserver : Text.isEncodable server)
    (hroom : s.live.room? (roomName server s.nextRoom) = none) (hnodup : (me :: before).Nodup)
    (htwice : guest ∈ me :: before) :
    (createRoom (some me) server ((before ++ guest :: after).map some) (some isDirect)).outcome s =
      (.error .constraint, s.numbered.stage (s.withNextRoom server me isDirect before)) := by
  have hbefore : ((before.map (s.guestRecord server isDirect)).forM fun m =>
      insert (·.insertMember m)).outcome (s.numbered.stage (s.withNextRoom server me isDirect [])) =
      (.ok (), s.numbered.stage (s.withNextRoom server me isDirect before)) :=
    outcome_writeGuests hv (fun g hg => hguests g (List.mem_append_left _ hg)) hserver hroom hnodup
  have hold : ∃ m ∈ s.firstRecords server me isDirect before,
      m.roomId = (s.nextRoomRow server me isDirect).id ∧ m.userId = guest := by
    rcases List.mem_cons.mp htwice with rfl | hg
    · exact ⟨_, List.mem_cons_self, rfl, rfl⟩
    · exact ⟨_, List.mem_cons_of_mem _ (List.mem_map_of_mem hg), rfl, rfl⟩
  have hb : bound (s.guestRecord server isDirect guest).texts = .ok () :=
    hv.bound_guestRecord hserver isDirect
      (hguests guest (List.mem_append_right _ List.mem_cons_self))
  have hguest : (insert (·.insertMember (s.guestRecord server isDirect guest))).outcome
      (s.numbered.stage (s.withNextRoom server me isDirect before)) =
      (.error .constraint, s.numbered.stage (s.withNextRoom server me isDirect before)) :=
    outcome_insert_error (Tables.insertMember_withRoom_eq_error hb rfl hold)
  have hloop : (((before ++ guest :: after).map (s.guestRecord server isDirect)).forM fun m =>
      insert (·.insertMember m)).outcome (s.numbered.stage (s.withNextRoom server me isDirect [])) =
      (.error .constraint, s.numbered.stage (s.withNextRoom server me isDirect before)) := by
    rw [List.map_append, List.map_cons]
    exact outcome_forM_error hbefore hguest _
  rw [outcome_createRoom_eq hv hme hguests hserver hroom]
  exact outcome_bind_error hloop

/-! ### Rooms of two people -/

/-- The next room of a maker. -/
def newRoom (s : Store) (server me : String) : RoomRow :=
  ⟨roomName server s.nextRoom, me, true, s.clock⟩

/-- The record of somebody who is invited to the next room. -/
def invitedRecord (s : Store) (server user : String) : MemberRow :=
  { s.record (roomName server s.nextRoom) user Membership.invited.wire with isDirect := some true }

/-- The store after the next room was made with two records. -/
def madeRoom (s : Store) (server me user : String) : Store where
  saved := s.live.withRoom (s.newRoom server me)
    [s.makerRecord server me, s.invitedRecord server user]
  pending := none
  clock := s.clock + 1
  nextRoom := s.nextRoom + 1

/-- The store after the next room was begun and its second record could not be written. -/
def begunRoom (s : Store) (server me : String) : Store where
  saved := s.saved
  pending := some (s.live.withRoom (s.newRoom server me) [s.makerRecord server me])
  clock := s.clock + 1
  nextRoom := s.nextRoom + 1

@[simp] theorem live_madeRoom (server me user : String) :
    (s.madeRoom server me user).live =
      s.live.withRoom (s.newRoom server me)
        [s.makerRecord server me, s.invitedRecord server user] := rfl

@[simp] theorem live_begunRoom (server me : String) : (s.begunRoom server me).live =
    s.live.withRoom (s.newRoom server me) [s.makerRecord server me] := rfl

section Two
variable (hv : s.live.Valid) {server me user : String} {u v : UserRow}
  (hme : s.live.user? me = some u)
include hv hme

theorem outcome_createRoom_noInvitee (huser : s.live.user? user = none) :
    (createRoom (some me) server [some user] (some true)).outcome s =
      (.error (unknown .noInvitee user), s) :=
  outcome_createRoom_noGuest hv [] [] (hme ▸ rfl) (by simp) huser

variable (huser : s.live.user? user = some v)

include huser in
theorem outcome_createRoom_noName (hserver : Text.isEncodable server = false) :
    (createRoom (some me) server [some user] (some true)).outcome s =
      (.error (.unencodable (roomName server s.nextRoom)), s.numbered) := by
  have hguests : ∀ g ∈ [user], (s.live.user? g).isSome :=
    List.forall_mem_singleton.mpr (Option.isSome_of_eq_some huser)
  have hrefused : (createRoom (some me) server ([user].map some) (some true)).outcome s =
      (.error (.unencodable (roomName server s.nextRoom)), s.numbered) :=
    outcome_createRoom_unnamed hv (hme ▸ rfl) hguests hserver
  exact hrefused

variable (hserver : Text.isEncodable server)
  (hroom : s.live.room? (roomName server s.nextRoom) = none)
include hserver hroom

include huser in
/-- **A room of two people.** -/
theorem outcome_createRoom (hne : me ≠ user) :
    (createRoom (some me) server [some user] (some true)).outcome s =
      (.ok (s.newRoom server me), s.madeRoom server me user) := by
  have hguests : ∀ g ∈ [user], (s.live.user? g).isSome :=
    List.forall_mem_singleton.mpr (Option.isSome_of_eq_some huser)
  have hmade : (createRoom (some me) server ([user].map some) (some true)).outcome s =
      (.ok (s.nextRoomRow server me true),
        s.numbered.commit (s.withNextRoom server me true [user])) :=
    outcome_createRoom_all hv (hme ▸ rfl) hguests hserver hroom (by simpa using hne)
  exact hmade

/-- **Nobody is invited to a room of their own**, and the room that was begun stays written. -/
theorem outcome_createRoom_self :
    (createRoom (some me) server [some me] (some true)).outcome s =
      (.error .constraint, s.begunRoom server me) :=
  outcome_createRoom_twice hv [] [] (hme ▸ rfl)
    (List.forall_mem_singleton.mpr (Option.isSome_of_eq_some hme)) hserver hroom (by simp) (by simp)

end Two

end PairChat.Store
