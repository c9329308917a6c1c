import PairChat.Proofs.LatestEvents
import PairChat.Proofs.Sending
import PairChat.Proofs.TwoRuns
import PairChat.Resolver
import PairChat.Web.Script

/-!
# Superseded events: what resolution does not see

A homeserver reports a room by its events, and only the latest one about each user counts.  Take two
homeservers that differ in nothing but superseded events of the room list (`DifferInSuperseded`).
Resolution sends the same requests to both, and its answers are the same rooms
(`superseded_unseen`).

* `Room.Same`: two rooms with the same records in any order; resolution treats them alike
  (`paired_resolve`).
* `SameRooms`: two room lists whose rooms have the same latest events; the same rooms are read from
  them (`matched_roomsOf`).
-/

namespace PairChat

open PairChat.Action

/-! ### Rooms with the same records -/

/-- The rooms have the same records, in any order. -/
structure Room.Same (x y : Room) : Prop where
  id : x.id = y.id
  membership : x.membership = y.membership
  mem_iff : ∀ m, m ∈ x.members ↔ m ∈ y.members

namespace Room.Same

variable {x y : Room} (h : x.Same y)
include h

theorem hasMemberWith (m : Membership) : x.hasMemberWith m = y.hasMemberWith m := by
  rw [Bool.eq_iff_iff, hasMemberWith_iff, hasMemberWith_iff]
  simp only [h.mem_iff]

theorem hasDirectFlag : x.hasDirectFlag = y.hasDirectFlag := by
  rw [Bool.eq_iff_iff, hasDirectFlag_iff, hasDirectFlag_iff]
  simp only [h.mem_iff]

end Room.Same

/-- The same rooms one by one, in the same order. -/
abbrev SameAll : List Room → List Room → Prop := List.Forall₂ Room.Same

theorem SameAll.ids {xs ys : List Room} (h : SameAll xs ys) : xs.map Room.id = ys.map Room.id := by
  induction h with
  | nil => rfl
  | cons hxy _ ih => rw [List.map_cons, List.map_cons, hxy.id, ih]

theorem SameAll.filter {p : Room → Bool} (hp : ∀ x y, x.Same y → p x = p y) {xs ys : List Room}
    (h : SameAll xs ys) : SameAll (xs.filter p) (ys.filter p) :=
  List.rel_filter (fun x y hxy => iff_of_eq (congrArg (· = true) (hp x y hxy))) h

theorem SameAll.isEmpty {xs ys : List Room} (h : SameAll xs ys) : xs.isEmpty = ys.isEmpty := by
  cases h <;> rfl

namespace Resolver

variable {xs ys : List Room} (h : SameAll xs ys) (listed : List String) (m : Membership)
include h

theorem sameAll_candidates : SameAll (candidates xs listed m) (candidates ys listed m) :=
  h.filter fun x y hxy => by rw [hxy.membership, hxy.id]

theorem sameAll_stale :
    SameAll ((candidates xs listed m).filter isStale) ((candidates ys listed m).filter isStale) :=
  SameAll.filter (fun _ _ hxy => hxy.hasMemberWith .left) (sameAll_candidates h listed m)

theorem sameAll_remaining : SameAll (remaining xs listed m) (remaining ys listed m) := by
  have hq : SameAll ((candidates xs listed m).filter fun x => !isStale x)
      ((candidates ys listed m).filter fun x => !isStale x) :=
    SameAll.filter (fun _ _ hxy => congrArg (!·) (hxy.hasMemberWith .left))
      (sameAll_candidates h listed m)
  have hf : SameAll (flagged xs m) (flagged ys m) :=
    h.filter fun x y hxy => by rw [hxy.membership, hxy.hasDirectFlag]
  unfold remaining
  dsimp only
  rw [hq.isEmpty]
  split_ifs
  · exact hf
  · exact hq

end Resolver

/-- **Resolution treats rooms with the same records alike.** -/
theorem Resolver.paired_resolve {σ τ : Type} {R : σ → τ → Prop} {p : Provider σ} {p' : Provider τ}
    (hrooms : Paired R SameAll p.rooms p'.rooms) (hreg : Paired R Eq p.registry? p'.registry?)
    (hleave : ∀ room, Paired R Eq (p.leave room) (p'.leave room)) (owner : Value) (m : Membership) :
    Paired R SameAll (resolve p owner m) (resolve p' owner m) := by
  have hfetch : Paired R (fun x y => SameAll x.1 y.1 ∧ x.2 = y.2) (fetch p) (fetch p') := by
    refine hrooms.attempt.bind fun _ _ hr => hreg.attempt.bind fun _ _ hg => ?_
    refine (paired_lift hr).bind fun _ _ hr => (paired_lift hg).bind fun _ _ hg => ?_
    exact paired_pure ⟨hr, by rw [hg]⟩
  rw [resolve_eq, resolve_eq]
  refine (paired_lift_self _).bind_eq fun owner => hfetch.bind ?_
  rintro ⟨xs, registry⟩ ⟨ys, _⟩ ⟨hxs, rfl⟩
  refine (paired_lift_self _).bind_eq fun listed => ?_
  have hone : ∀ x y : Room, x.Same y → Paired R Eq (p.leave x.id) (p'.leave y.id) := by
    intro x y hxy
    rw [hxy.id]
    exact hleave y.id
  exact (paired_forM hone (sameAll_stale hxs listed m)).bind_eq fun _ =>
    paired_pure (sameAll_remaining hxs listed m)

namespace Web

variable {ν : Type}

/-- Nothing tells the sessions apart but the answers that came back. -/
structure Session.Alike (s s' : Session ν) : Prop where
  known : s.toKnown = s'.toKnown
  server : s.server = s'.server
  sent : s.sent = s'.sent

namespace Account

open MemberEvent

/-! ### Room lists -/

/-- What is asked for in a request for the room list. -/
def roomQuery : List (String × Body) :=
  [("timeout", .document (.int 0)), ("filter", .document roomFilter)]

/-- Is this the request for the room list? -/
def AsksForRooms (a : Account) (request : Request) : Prop :=
  ∃ hasScheme, a.request .get .sync none roomQuery = .ok (request, hasScheme)

/-- The rooms in a section of a room list, as they are reported. -/
def entriesIn (key : String) (reply : Value) : Except Failure (List (Scalar × Value)) := do
  entriesOf (← entry key (.map []) (← entry "rooms" (.map []) (orEmpty reply)))

/-- The events of a room: its state, and then its timeline. -/
def settledEvents (room : Value) : Except Failure Value := do
  joinEvents (← events "state" room) (← events "timeline" room)

/-- Both are lists of events, with the same latest one about each user. -/
def SameLatest (r r' : Except Failure Value) : Prop :=
  ∃ xs ys, r = .ok (.list xs) ∧ r' = .ok (.list ys) ∧ ∀ user, latest? user xs = latest? user ys

/-- The sections report the same rooms in the same order, with the same latest events. -/
def SameSection (key : String) (eventsOf : Value → Except Failure Value) (reply reply' : Value) :
    Prop :=
  ∃ xs ys, entriesIn key reply = .ok xs ∧ entriesIn key reply' = .ok ys ∧
    List.Forall₂ (fun x y => x.1 = y.1 ∧ SameLatest (eventsOf x.2) (eventsOf y.2)) xs ys

/-- **The room lists differ in superseded events only.** -/
structure SameRooms (reply reply' : Value) : Prop where
  joined : SameSection "join" settledEvents reply reply'
  invited : SameSection "invite" (events "invite_state") reply reply'
  left : SameSection "leave" settledEvents reply reply'

theorem settledMembers_eq (room : Value) :
    settledMembers room = settledEvents room >>= membersOf := by
  unfold settledMembers settledEvents
  rcases events "state" room with e | state
  · rfl
  rcases events "timeline" room with e | timeline
  · rfl
  · rfl

/-- The own record among those of a room. -/
theorem find?_own (me : Value) (members : List Member) :
    (members.find? fun m => Value.text m.userId == me) =
      me.text?.bind fun user => recordOf? user members := by
  rcases hme : me.text? with _ | user
  · rw [Option.bind_none, List.find?_eq_none]
    intro m _ he
    rw [← eq_of_beq he] at hme
    cases hme
  · obtain rfl := Value.text?_eq_some_iff.mp hme
    unfold recordOf?
    rw [Option.bind_some]
    congr 1
    funext m
    rw [Bool.eq_iff_iff]
    simp

theorem ownMembership_congr {xs ys : List Value} (h : ∀ user, latest? user xs = latest? user ys)
    (me : Value) : ownMembership me (members xs) = ownMembership me (members ys) := by
  unfold ownMembership
  rw [find?_own, find?_own]
  simp only [recordOf?_members_congr h]

/-- The rooms in a section of a room list. -/
def roomsIn (key : String) (members : Value → Except Failure (List Member))
    (membership : List Member → Membership) (reply : Value) : Except Failure (List Room) := do
  (← entriesIn key reply).mapM fun (id, room) => do
    let ms ← members room
    return ⟨id.plain, membership ms, ms⟩

theorem roomsOf_eq (me reply : Value) : roomsOf me reply = do
    let joined ← roomsIn "join" settledMembers (fun _ => .joined) reply
    let invited ← roomsIn "invite" invitedMembers (fun _ => .invited) reply
    let left ← roomsIn "leave" settledMembers (ownMembership me) reply
    return joined ++ invited ++ left := by
  unfold roomsOf roomsIn entriesIn
  rcases entry "rooms" (.map []) (orEmpty reply) with e | rooms
  · rfl
  · simp only [roomSection, bind_assoc]
    rfl

theorem matched_roomsIn {key : String} {eventsOf : Value → Except Failure Value}
    {reply reply' : Value} {membersIn : Value → Except Failure (List Member)}
    {membership : List Member → Membership} (hs : SameSection key eventsOf reply reply')
    (hin : ∀ room, membersIn room = eventsOf room >>= membersOf)
    (hm : ∀ xs ys, (∀ user, latest? user xs = latest? user ys) →
      membership (members xs) = membership (members ys)) :
    Matched SameAll (roomsIn key membersIn membership reply)
      (roomsIn key membersIn membership reply') := by
  obtain ⟨xs, ys, hxs, hys, hall⟩ := hs
  unfold roomsIn
  rw [hxs, hys]
  refine matched_mapM ?_ hall
  rintro ⟨id, x⟩ ⟨_, y⟩ ⟨rfl, us, vs, hus, hvs, hl⟩
  dsimp only at hus hvs ⊢
  rw [hin, hin, hus, hvs]
  exact .ok ⟨rfl, hm us vs hl, mem_members_congr hl⟩

/-- **The same rooms are read from both room lists.** -/
theorem matched_roomsOf {reply reply' : Value} (h : SameRooms reply reply') (me : Value) :
    Matched SameAll (roomsOf me reply) (roomsOf me reply') := by
  have hjoined : Matched SameAll (roomsIn "join" settledMembers (fun _ => .joined) reply)
      (roomsIn "join" settledMembers (fun _ => .joined) reply') :=
    matched_roomsIn h.joined settledMembers_eq fun _ _ _ => rfl
  have hinvited : Matched SameAll (roomsIn "invite" invitedMembers (fun _ => .invited) reply)
      (roomsIn "invite" invitedMembers (fun _ => .invited) reply') :=
    matched_roomsIn h.invited (fun _ => rfl) fun _ _ _ => rfl
  have hleft := matched_roomsIn h.left settledMembers_eq fun _ _ hl => ownMembership_congr hl me
  rw [roomsOf_eq, roomsOf_eq]
  refine hjoined.bind fun _ _ hj => hinvited.bind fun _ _ hi => hleft.bind fun _ _ hl => ?_
  exact .ok (List.rel_append (List.rel_append hj hi) hl)

/-! ### What is sent -/

variable {h h' : Homeserver ν} {a : Account} {s s' : Session ν} {method : Method}
  {endpoint : Endpoint} {body : Option Value} {query : List (String × Body)}

/-- **The homeservers differ in superseded events of the room list only.** -/
structure DifferInSuperseded (a : Account) (h h' : Homeserver ν) : Prop where
  elsewhere : ∀ request, ¬ a.AsksForRooms request → h.respond request = h'.respond request
  server : ∀ request, a.AsksForRooms request → ∀ server,
    (h.respond request server).2 = (h'.respond request server).2
  rooms : ∀ request, a.AsksForRooms request → ∀ server,
    Option.Rel (fun r r' => Matched SameRooms r.answer r'.answer)
      (h.respond request server).1 (h'.respond request server).1

instance : DecidablePred a.AsksForRooms := fun request =>
  inferInstanceAs (Decidable (∃ hasScheme, a.request .get .sync none roomQuery =
    .ok (request, hasScheme)))

/-- The homeserver, but with a given answer to the request for the room list. -/
def reporting (h : Homeserver ν) (a : Account) (reply : Value) : Homeserver ν where
  respond request server :=
    if a.AsksForRooms request then (some ⟨200, .document reply⟩, server)
    else h.respond request server

theorem differInSuperseded_reporting {reply reply' : Value} (hs : SameRooms reply reply') :
    DifferInSuperseded a (reporting h a reply) (reporting h a reply') where
  elsewhere request hask := by
    funext server
    simp only [reporting, if_neg hask]
  server request hask server := by
    simp only [reporting, if_pos hask]
  rooms request hask server := by
    simp only [reporting, if_pos hask]
    exact .some (.ok hs)

theorem matched_received {Q : Value → Value → Prop} {r r' : Option Response}
    (hr : Option.Rel (fun x y => Matched Q x.answer y.answer) r r') (hasScheme : Bool) :
    Matched Q (received hasScheme r) (received hasScheme r') := by
  cases hr with
  | none => exact .error _
  | some hanswer =>
    unfold received
    split_ifs
    · exact hanswer
    · exact .error _

theorem paired_send {Q : Value → Value → Prop}
    (hq : ∀ request hasScheme, a.request method endpoint body query = .ok (request, hasScheme) →
      ∀ server, (h.respond request server).2 = (h'.respond request server).2 ∧
        Matched Q (received hasScheme (h.respond request server).1)
          (received hasScheme (h'.respond request server).1)) :
    Paired Session.Alike Q (a.send h method endpoint body query)
      (a.send h' method endpoint body query) := by
  intro s s' hs
  rw [outcome_send, outcome_send]
  rcases hr : a.request method endpoint body query with e | ⟨request, hasScheme⟩
  · exact ⟨.error e, hs⟩
  · obtain ⟨hserver, hanswer⟩ := hq request hasScheme hr s.server
    have hopen : s'.isOpen = s.isOpen := congrArg Known.isOpen hs.known.symm
    dsimp only
    rw [hopen]
    split_ifs
    · rw [← hs.server]
      refine ⟨hanswer, hs.known, ?_, ?_⟩
      · rw [Session.server_exchanged, Session.server_exchanged, ← hs.server, hserver]
      · rw [Session.sent_exchanged, Session.sent_exchanged, hs.sent]
    · exact ⟨.error _, hs⟩

/-- Without a query of its own, a request does not ask for the room list. -/
theorem not_asksForRooms {request : Request} {hasScheme : Bool}
    (hr : a.request method endpoint body [] = .ok (request, hasScheme)) :
    ¬ a.AsksForRooms request := by
  rintro ⟨_, hr'⟩
  obtain ⟨-, -, address, -, rfl, -⟩ := request_eq_ok_iff.mp hr
  obtain ⟨-, -, address', -, he, -⟩ := request_eq_ok_iff.mp hr'
  -- The query of a location holds texts only, that for the room list holds documents.
  have hq : ((Location.fields (address.query.getD [])).map fun field =>
      (field.1, Body.text field.2)) = roomQuery := congrArg Request.query he
  have hmem : ("timeout", Body.document (.int 0)) ∈
      (Location.fields (address.query.getD [])).map fun field =>
        (field.1, Body.text field.2) := by
    rw [hq]
    exact List.mem_cons_self
  obtain ⟨field, -, hf⟩ := List.mem_map.mp hmem
  cases congrArg Prod.snd hf

section Differ
variable (hd : DifferInSuperseded a h h')
include hd

theorem paired_send_elsewhere : Paired Session.Alike Eq (a.send h method endpoint body [])
    (a.send h' method endpoint body []) := by
  refine paired_send fun request hasScheme hr server => ?_
  rw [hd.elsewhere request (not_asksForRooms hr)]
  exact ⟨rfl, matched_refl _⟩

theorem paired_identity : Paired Session.Alike Eq (a.identity h) (a.identity h') := by
  refine paired_getState.bind fun s s' hs => ?_
  have hknown : s.account = s'.account := congrArg Known.account hs.known
  rw [hknown]
  by_cases hnull : s'.account ≠ .null
  · rw [if_pos hnull, if_pos hnull]
    exact paired_pure rfl
  · rw [if_neg hnull, if_neg hnull]
    refine (paired_send_elsewhere hd).bind_eq fun reply => ?_
    refine (paired_lift_self _).bind_eq fun account => ?_
    have hset : Paired Session.Alike Eq (modify fun s : Session ν => { s with account })
        (modify fun s : Session ν => { s with account }) := fun t t' ht =>
      ⟨.ok rfl, congrArg (fun k : Known => { k with account }) ht.known, ht.server, ht.sent⟩
    exact hset.bind_eq fun _ => paired_pure rfl

theorem paired_me : Paired Session.Alike Eq (a.me h) (a.me h') := by
  refine (paired_identity hd).bind_eq fun account => ?_
  split_ifs
  · exact paired_throw _
  · exact paired_pure rfl

theorem paired_document (type : String) :
    Paired Session.Alike Eq (a.document h type) (a.document h' type) := by
  refine Paired.recover ((paired_me hd).bind_eq fun me => ?_) _
  exact (paired_lift_self _).bind_eq fun user => paired_send_elsewhere hd

theorem paired_registry : Paired Session.Alike Eq (a.registry? h) (a.registry? h') :=
  (paired_document hd _).bind_eq fun _ => paired_lift_self _

theorem paired_leave (room : String) :
    Paired Session.Alike Eq (a.leave h room) (a.leave h' room) :=
  (paired_send_elsewhere hd).bind_eq fun _ => paired_pure rfl

theorem paired_rooms : Paired Session.Alike SameAll (a.rooms h) (a.rooms h') := by
  refine (paired_me hd).bind_eq fun me => ?_
  refine Paired.bind (Q := SameRooms) (paired_send fun request hasScheme hr server => ?_) ?_
  · have hask : a.AsksForRooms request := ⟨hasScheme, hr⟩
    exact ⟨hd.server request hask server, matched_received (hd.rooms request hask server) hasScheme⟩
  · intro reply reply' hreply
    exact paired_lift (matched_roomsOf hreply me)

/-- **Superseded events have no influence on resolution.** Whatever the homeserver does with the
requests to leave rooms, it gets the same requests in the same order; and the answer has the same
rooms in the same order, or it is the same failure. -/
theorem superseded_unseen (owner : Value) (m : Membership) (s : Session ν) :
    let o := (Resolver.resolve (a.provider h) owner m).outcome s
    let o' := (Resolver.resolve (a.provider h') owner m).outcome s
    o.1.map (·.map Room.id) = o'.1.map (·.map Room.id) ∧ o.2.sent = o'.2.sent ∧
      o.2.server = o'.2.server := by
  have hrooms : Paired Session.Alike SameAll (a.provider h).rooms (a.provider h').rooms :=
    paired_rooms hd
  obtain ⟨hr, ht⟩ := Resolver.paired_resolve hrooms (paired_registry hd) (paired_leave hd) owner m
    s s ⟨rfl, rfl, rfl⟩
  exact ⟨(hr.map fun _ _ hxy => hxy.ids).eq, ht.sent, ht.server⟩

end Differ

/-- An event about the membership of a user. -/
def membershipEvent (user : String) (m : Membership) : Value :=
  .object [("type", .text memberType), ("state_key", .text user),
    ("content", .object [("membership", .text m.wire)])]

theorem about?_membershipEvent (user other : String) (m : Membership) :
    about? user (membershipEvent other m) =
      if other = user then some (.record ⟨other, m, none, none⟩) else none := by
  have hv : ofValue? (membershipEvent other m) = some (.record ⟨other, m, none, none⟩) := by
    cases m <;> rfl
  unfold about?
  rw [hv]
  by_cases hu : other = user <;> simp [Option.filter, user?, hu]

/-- A list of joined rooms, each with its state and its timeline. -/
def joinedList (rooms : List (String × List Value × List Value)) : Value :=
  .object [("rooms", .object [("join", .object (rooms.map fun (id, state, timeline) =>
    (id, .object [("state", .object [("events", .list state)]),
      ("timeline", .object [("events", .list timeline)])])))])]

/-- Bob has left one of two chats; it is left, and the other one is the answer, however he came to
be where he is. -/
theorem superseded_unseen_joined :
    let a : Account := ⟨"http://localhost", ⟨true, true, [], [], none⟩, .text "token"⟩
    let alice := membershipEvent "@alice:localhost"
    let bob := membershipEvent "@bob:localhost"
    let reply := joinedList [("!left:localhost", [alice .joined, bob .joined], [bob .left]),
      ("!kept:localhost", [bob .invited, alice .joined], [bob .joined])]
    let reply' := joinedList [("!left:localhost", [bob .left], [alice .joined]),
      ("!kept:localhost", [alice .joined, bob .joined], [])]
    let registry : Value :=
      .object [("@alice:localhost", .list [.text "!left:localhost", .text "!kept:localhost"])]
    let s : Session ServerScript := { server :=
      { account := "@alice:localhost", documents := [("m.direct", .document registry)] } }
    let o := (Resolver.resolve (a.provider (reporting scripted a reply'))
      (.text "@alice:localhost") .joined).outcome s
    SameRooms reply reply' ∧ o.1.map (·.map Room.id) = .ok ["!kept:localhost"] ∧
      o.2.sent.map Request.resource = ["/account/whoami", "/sync",
        "/user/%40alice%3Alocalhost/account_data/m.direct",
        "/rooms/%21left%3Alocalhost/leave"] := by
  intro a alice bob reply reply' registry s o
  have hsame : SameRooms reply reply' := by
    refine ⟨⟨_, _, rfl, rfl, ?_⟩, ⟨_, _, rfl, rfl, .nil⟩, ⟨_, _, rfl, rfl, .nil⟩⟩
    refine .cons ⟨rfl, _, _, rfl, rfl, fun user => ?_⟩
      (.cons ⟨rfl, _, _, rfl, rfl, fun user => ?_⟩ .nil)
    all_goals
      by_cases ha : "@alice:localhost" = user
      · subst ha
        rfl
      by_cases hb : "@bob:localhost" = user
      · subst hb
        rfl
      · simp [latest?, about?_membershipEvent, alice, bob, ha, hb]
  have h := superseded_unseen (differInSuperseded_reporting (h := scripted) (a := a) hsame)
    (.text "@alice:localhost") .joined s
  refine ⟨hsame, h.1.symm.trans ?_, (congrArg (List.map Request.resource) h.2.1.symm).trans ?_⟩
  · decide +kernel
  · decide +kernel

end Account

end Web

end PairChat
