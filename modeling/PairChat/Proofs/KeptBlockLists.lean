import PairChat.Proofs.Acting
import PairChat.Proofs.BlockLists
import PairChat.Proofs.Sending
import PairChat.Web.Script

/-!
# Kept block lists: on a store and on a homeserver

A store keeps the block list of a registered account as a document, and so does a homeserver that
returns what was put (`Web.Account.KeepsBlockList`).  Both keep the same list of users:

* `Store.keepsBlockList` and `Web.Account.keepsBlockList`: both providers do for every call what it
  does to the list;
* `blockLists_agree`: **all calls have the same answers on both**, the users on the list are those
  whose last call was to block them, in order, and nothing is written to unblock anybody else.
-/

namespace PairChat

open PairChat.Action

variable {users : List String}

/-! ### On a store -/

namespace Store

open Account

variable {s : Store} {server me : String}

/-- The account is registered, and these users are on its block list. -/
structure HoldsBlockList (me : String) (users : List String) (s : Store) : Prop where
  registered : (s.live.user? me).isSome
  nodup : users.Nodup
  blockList : blockListIn me s.live = .ok (.ofUsers users)

theorem HoldsBlockList.wrote (h : HoldsBlockList me users s) {users' : List String}
    (hn : users'.Nodup) : HoldsBlockList me users' (s.wrote (s.live.withDocument
      ⟨me, blockListType, (BlockList.ofUsers users').toContent⟩)) where
  registered := h.registered
  nodup := hn
  blockList := by
    have hread : Tables.readable (BlockList.ofUsers users').toContent =
        .ok (BlockList.ofUsers users').toContent := rfl
    rw [blockListIn, Tables.document_eq, live_wrote, Tables.document?_withDocument, if_pos rfl]
    simp only [hread]
    exact BlockList.ofContent_ofUsers hn

theorem readsAndWrites : (acting server (some me)).provider.ReadsAndWrites
    (acting server (some me)).blockList (acting server (some me)).setBlockList :=
  ⟨rfl, fun _ => rfl, fun _ => rfl⟩

section Acting
variable (hme : IsName me)
include hme

theorem HoldsBlockList.outcome_blockList (h : HoldsBlockList me users s) :
    (acting server (some me)).blockList.outcome s = (.ok (.ofUsers users), s) := by
  rw [Account.outcome_blockList hme, h.blockList]

/-- **A store keeps the block list of a registered account.** -/
theorem keepsBlockList : (acting server (some me)).provider.KeepsBlockList (HoldsBlockList me) :=
  readsAndWrites.keepsBlockList (fun _ _ h => h.nodup)
    (fun _ s h => ⟨s, h.outcome_blockList hme, h⟩)
    (fun _ _ _ h hn _ => ⟨_, outcome_setBlockList hme _ h.registered, h.wrote hn⟩)

end Acting

end Store

/-! ### On a homeserver -/

namespace Web

variable {ν : Type}

/-- Only requests for something to read were sent in between. -/
def Session.OnlyReads (t t' : Session ν) : Prop :=
  ∃ reads, t'.sent = t.sent ++ reads ∧ ∀ r ∈ reads, r.method = .get

theorem Session.OnlyReads.refl (t : Session ν) : t.OnlyReads t :=
  ⟨[], (List.append_nil _).symm, by simp⟩

theorem Session.OnlyReads.trans {t t' t'' : Session ν} (h : t.OnlyReads t')
    (h' : t'.OnlyReads t'') : t.OnlyReads t'' := by
  obtain ⟨reads, hs, hr⟩ := h
  obtain ⟨reads', hs', hr'⟩ := h'
  refine ⟨reads ++ reads', by rw [hs', hs, List.append_assoc], fun r hm => ?_⟩
  rcases List.mem_append.mp hm with hm | hm
  · exact hr r hm
  · exact hr' r hm

namespace Account

variable {h : Homeserver ν} {a : Account} {user : String} {Kept : ν → Option Value → Prop}
  {content : Option Value} {t : Session ν}

/-- Can the account send requests for the endpoint? -/
def Reaches (a : Account) (endpoint : Endpoint) : Prop :=
  endpoint.isWhole ∧ ∃ address,
    a.location.under (protocolPath ++ endpoint.path).toList = .ok address ∧ address.hasScheme

theorem Reaches.exists_request {endpoint : Endpoint} (hr : a.Reaches endpoint) (method : Method)
    (body : Option Value) (hb : body.bind Json.unwritten? = none) :
    ∃ request, a.request method endpoint body [] = .ok (request, true) ∧
      request.method = method := by
  obtain ⟨hw, address, hu, hs⟩ := hr
  exact ⟨a.requestAt method body [] address,
    request_eq_ok_iff.mpr ⟨hw, hb, address, hu, rfl, hs.symm⟩, rfl⟩

/-- **The homeserver keeps the block list of the account**, as a document: it returns what was put,
and says that there is none before. `Kept` says which document it has. -/
structure KeepsBlockList (h : Homeserver ν) (a : Account) (user : String)
    (Kept : ν → Option Value → Prop) : Prop where
  named : user ≠ ""
  reachesAccount : a.Reaches .whoami
  reachesDocument : a.Reaches (.document user blockListType)
  account : ∀ request server content,
    a.request .get .whoami none [] = .ok (request, true) → Kept server content →
      Kept (h.respond request server).2 content ∧ ∃ reply,
        received true (h.respond request server).1 = .ok reply ∧
          entry "user_id" .null (orEmpty reply) = .ok (.text user)
  read : ∀ request server content,
    a.request .get (.document user blockListType) none [] = .ok (request, true) →
      Kept server (some content) →
        Kept (h.respond request server).2 (some content) ∧
          received true (h.respond request server).1 = .ok content
  missing : ∀ request server,
    a.request .get (.document user blockListType) none [] = .ok (request, true) →
      Kept server none →
        Kept (h.respond request server).2 none ∧ ∃ rejection : Rejection,
          received true (h.respond request server).1 = .error (.rejected rejection) ∧
            rejection.status = 404
  write : ∀ request server old content,
    a.request .put (.document user blockListType) (some content) [] = .ok (request, true) →
      Kept server old →
        Kept (h.respond request server).2 (some content) ∧ ∃ reply,
          received true (h.respond request server).1 = .ok reply

/-- The session may be used, the account is not known to be another one, and the homeserver has this
document. -/
structure Ready (Kept : ν → Option Value → Prop) (user : String) (content : Option Value)
    (t : Session ν) : Prop where
  isOpen : t.isOpen
  account : t.account = .null ∨ t.account = .text user
  kept : Kept t.server content

section Keeps
variable (hh : KeepsBlockList h a user Kept) (ht : Ready Kept user content t)
include hh ht

theorem outcome_identity : ∃ t', (a.identity h).outcome t = (.ok (.text user), t') ∧
    Ready Kept user content t' ∧ t.OnlyReads t' := by
  unfold identity
  rw [outcome_bind_ok (outcome_getState t)]
  rcases ht.account with hnull | hknown
  · obtain ⟨request, hr, hget⟩ := hh.reachesAccount.exists_request .get none rfl
    obtain ⟨hkept, reply, hreply, hentry⟩ := hh.account request t.server content hr ht.kept
    have hsend : (a.get h .whoami).outcome t = (.ok reply, t.exchanged h request) := by
      rw [get, outcome_send_ok hr ht.isOpen, hreply]
    refine ⟨{ t.exchanged h request with account := .text user }, ?_,
      ⟨ht.isOpen, .inr rfl, hkept⟩, [request], Session.sent_exchanged, by simpa using hget⟩
    rw [if_neg (by simpa using hnull), outcome_bind_ok hsend, hentry]
    rfl
  · refine ⟨t, ?_, ht, .refl t⟩
    rw [if_pos (by rw [hknown]; simp), hknown]
    rfl

theorem outcome_me : ∃ t', (a.me h).outcome t = (.ok (.text user), t') ∧
    Ready Kept user content t' ∧ t.OnlyReads t' := by
  obtain ⟨t', ho, ht', hreads⟩ := outcome_identity hh ht
  have hne : (Value.text user).isEmpty = false := by
    simpa [Value.isEmpty, Scalar.isEmpty] using hh.named
  refine ⟨t', (outcome_bind_ok ho).trans ?_, ht', hreads⟩
  rw [hne]
  rfl

/-- A missing document is read as none. -/
theorem outcome_document : ∃ t',
    (a.document h blockListType).outcome t = (.ok (content.getD .null), t') ∧
      Ready Kept user content t' ∧ t.OnlyReads t' := by
  obtain ⟨t', ho, ht', hreads⟩ := outcome_me hh ht
  obtain ⟨request, hr, hget⟩ := hh.reachesDocument.exists_request .get none rfl
  have hsend : (a.get h (.document user blockListType)).outcome t' =
      (received true (h.respond request t'.server).1, t'.exchanged h request) :=
    outcome_send_ok hr ht'.isOpen
  have hread : ((do
      let user ← lift (segment (← a.me h))
      a.get h (.document user blockListType)) : Action (Session ν) Value).outcome t =
        (received true (h.respond request t'.server).1, t'.exchanged h request) := by
    rw [outcome_bind_ok ho]
    exact hsend
  -- Whatever comes back, nothing but the one request was sent since the account is known.
  have hafter : t.OnlyReads (t'.exchanged h request) :=
    hreads.trans ⟨[request], Session.sent_exchanged, by simpa using hget⟩
  refine ⟨t'.exchanged h request, ?_, ?_, hafter⟩
  · unfold document orElseMissing
    rw [outcome_recover, hread]
    cases content with
    | some content =>
      rw [(hh.read request t'.server content hr ht'.kept).2]
      rfl
    | none =>
      obtain ⟨-, rejection, hreply, hstatus⟩ := hh.missing request t'.server hr ht'.kept
      have hnot : (Failure.rejected rejection).isNotFound := by
        simp [Failure.isNotFound, Rejection.isNotFound, hstatus]
      rw [hreply]
      simp only [hnot, if_true]
      rfl
  · refine ⟨ht'.isOpen, ht'.account, ?_⟩
    cases content with
    | some content => exact (hh.read request t'.server content hr ht'.kept).1
    | none => exact (hh.missing request t'.server hr ht'.kept).1

theorem outcome_setDocument {new : Value} (hw : Json.unwritten? new = none) : ∃ t',
    (a.setDocument h blockListType new).outcome t = (.ok (), t') ∧
      Ready Kept user (some new) t' := by
  obtain ⟨t', ho, ht', -⟩ := outcome_me hh ht
  obtain ⟨request, hr, -⟩ := hh.reachesDocument.exists_request .put (some new) hw
  obtain ⟨hkept, reply, hreply⟩ := hh.write request t'.server content new hr ht'.kept
  have hsend : (a.send h .put (.document user blockListType) (some new) []).outcome t' =
      (.ok reply, t'.exchanged h request) := by
    rw [outcome_send_ok hr ht'.isOpen, hreply]
  refine ⟨t'.exchanged h request, ?_, ht'.isOpen, ht'.account, hkept⟩
  unfold setDocument
  rw [outcome_bind_ok ho]
  exact outcome_bind_ok hsend

end Keeps

/-- These users are on the block list that the homeserver has, and all of them can be sent. -/
structure HoldsBlockList (Kept : ν → Option Value → Prop) (user : String) (users : List String)
    (t : Session ν) : Prop where
  nodup : users.Nodup
  written : ∀ u ∈ users, Json.unwritten? (.text u) = none
  document : ∃ content, Ready Kept user content t ∧
    BlockList.ofContent (content.getD .null) = .ok (.ofUsers users)

section Holds
variable (hh : KeepsBlockList h a user Kept) (ht : HoldsBlockList Kept user users t)
include hh ht

theorem HoldsBlockList.outcome_blockList : ∃ t',
    (a.blockList h).outcome t = (.ok (.ofUsers users), t') ∧
      HoldsBlockList Kept user users t' ∧ t.OnlyReads t' := by
  obtain ⟨content, hready, hcontent⟩ := ht.document
  obtain ⟨t', ho, hready', hreads⟩ := outcome_document hh hready
  refine ⟨t', (outcome_bind_ok ho).trans ?_, ⟨ht.nodup, ht.written, content, hready', hcontent⟩,
    hreads⟩
  rw [outcome_lift, hcontent]

theorem HoldsBlockList.outcome_setBlockList {users' : List String} (hn : users'.Nodup)
    (hw : ∀ u ∈ users', Json.unwritten? (.text u) = none) : ∃ t',
      (a.setBlockList h (.ofUsers users')).outcome t = (.ok (), t') ∧
        HoldsBlockList Kept user users' t' := by
  obtain ⟨content, hready, -⟩ := ht.document
  obtain ⟨t', ho, hready'⟩ := outcome_setDocument hh hready (BlockList.unwritten?_ofUsers hn hw)
  have hkeys : (BlockList.ofUsers users').any (fun e => Json.isUnlimited e.1) = false := by
    unfold BlockList.ofUsers
    rw [List.any_map, List.any_eq_false]
    exact fun _ _ => Bool.false_ne_true
  refine ⟨t', ?_, hn, hw, _, hready', BlockList.ofContent_ofUsers hn⟩
  unfold setBlockList
  rw [hkeys]
  exact ho

end Holds

theorem readsAndWrites :
    (a.provider h).ReadsAndWrites (a.blockList h) (a.setBlockList h) :=
  ⟨rfl, fun _ => rfl, fun _ => rfl⟩

/-- **So does the account of a homeserver that keeps the document.** -/
theorem keepsBlockList (hh : KeepsBlockList h a user Kept) :
    (a.provider h).KeepsBlockList (HoldsBlockList Kept user) := by
  refine readsAndWrites.keepsBlockList (fun _ _ ht => ht.nodup) (fun _ _ ht => ?_)
    fun users users' t ht hn hw => ht.outcome_setBlockList hh hn fun u hu => ?_
  · obtain ⟨t', ho, ht', -⟩ := ht.outcome_blockList hh
    exact ⟨t', ho, ht'⟩
  · rcases hw u hu with hu | hu
    · exact ht.written u hu
    · exact hu

end Account

end Web

/-! ### Both -/

section Agree
variable {ν : Type} {me user : String} {s : Store} {h : Web.Homeserver ν} {a : Web.Account}
  {Kept : ν → Option Value → Prop} {t : Web.Session ν}

/-- **Block lists agree.** A registered account of a store and the account of a homeserver, both
without a block list at first, get the same answers to all calls. After any calls the list has the
users who are blocked, each once, in the order of the calls since when they are; and nothing is
written to unblock anybody else. Who is blocked must have a strict form, else it cannot be sent. -/
theorem blockLists_agree (server : String) (hme : Store.Account.IsName me)
    (hu : (s.live.user? me).isSome) (hnone : s.live.document? me Store.blockListType = none)
    (hh : Web.Account.KeepsBlockList h a user Kept) (ht : Web.Account.Ready Kept user none t)
    (calls : List BlockListCall)
    (hw : ∀ u, BlockListCall.block u ∈ calls → Json.unwritten? (.text u) = none) :
    let p := (Store.Account.acting server (some me)).provider
    let q := a.provider h
    let s' := after (BlockListCall.run p) s calls
    let t' := after (BlockListCall.run q) t calls
    log (BlockListCall.run p) s calls = log (BlockListCall.run q) t calls ∧
      ∃ users, InOrder calls users ∧
        (p.blocked.outcome s').1 = .ok (users.map .text) ∧
        (q.blocked.outcome t').1 = .ok (users.map .text) ∧
        ∀ u, u ∉ users → (p.unblock u).outcome s' = (.ok (), s') ∧
          ∃ t'', (q.unblock u).outcome t' = (.ok (), t'') ∧ t'.OnlyReads t'' := by
  intro p q s' t'
  have hwritten : ∀ c ∈ calls, c.IsWritten := by
    intro c hc
    cases c with
    | block u => exact hw u hc
    | unblock u => trivial
    | list => trivial
  have hs : Store.HoldsBlockList me [] s := by
    refine ⟨hu, List.nodup_nil, ?_⟩
    rw [Store.Account.blockListIn, Store.Tables.document_eq, hnone]
    rfl
  have ht : Web.Account.HoldsBlockList Kept user [] t :=
    ⟨List.nodup_nil, by simp, none, ht, rfl⟩
  have hp : p.KeepsBlockList (Store.HoldsBlockList me) := Store.keepsBlockList hme
  obtain ⟨hlog, hs'⟩ := hp.log_eq hs calls hwritten
  obtain ⟨hlog', ht'⟩ := (Web.Account.keepsBlockList hh).log_eq ht calls hwritten
  have hread : (Store.Account.acting server (some me)).blockList.outcome s' =
      (.ok (.ofUsers (usersAfter calls)), s') := hs'.outcome_blockList hme
  obtain ⟨t'', hread', -, hreads⟩ := ht'.outcome_blockList hh
  refine ⟨hlog.trans hlog'.symm, usersAfter calls, inOrder_usersAfter calls, ?_, ?_, ?_⟩
  · exact congrArg Prod.fst (Store.readsAndWrites.outcome_blocked hread)
  · exact congrArg Prod.fst (Web.Account.readsAndWrites.outcome_blocked hread')
  · intro u hu
    exact ⟨Store.readsAndWrites.outcome_unblock_of_not_mem hread hu, t'',
      Web.Account.readsAndWrites.outcome_unblock_of_not_mem hread' hu, hreads⟩

end Agree

/-! ### A homeserver that keeps block lists -/

namespace Web

namespace ServerScript

/-- The homeserver has no routes, knows the account, and has this document as its block list. -/
structure HasBlockList (user : String) (server : ServerScript) (content : Option Value) :
    Prop where
  routes : server.routes = []
  account : server.account = user
  document : server.documents.lookup Account.blockListType = content.map Body.document

theorem lookup_putDocument (key : String) (body : Body) (documents : List (String × Body)) :
    (putDocument key body documents).lookup key = some body := by
  induction documents with
  | nil => simp [putDocument]
  | cons d documents ih =>
    obtain ⟨k, b⟩ := d
    by_cases hk : k = key
    · simp [putDocument, hk]
    · have hne : (key == k) = false := by simpa using Ne.symm hk
      simp [putDocument, hk, List.lookup_cons, hne, ih]

theorem respond_of_routes {server : ServerScript} (h : server.routes = []) (request : Request) :
    scripted.respond request server = usual request server := by
  show respond request server = _
  unfold respond
  rw [h]
  rfl

end ServerScript

namespace Account

open ServerScript

/-- An account of a homeserver on this machine. -/
def onThisMachine : Account where
  url := "http://localhost"
  location := ⟨true, true, [], [], none⟩
  token := .text "token"

theorem eq_requestAt {method : Method} {endpoint : Endpoint} {body : Option Value} {r : Request}
    {address : Address} {hasScheme : Bool} {a : Account}
    (ha : a.location.under (protocolPath ++ endpoint.path).toList = .ok address)
    (hr : a.request method endpoint body [] = .ok (r, hasScheme)) :
    r = a.requestAt method body [] address := by
  obtain ⟨-, -, address', ha', rfl, -⟩ := request_eq_ok_iff.mp hr
  obtain rfl := Except.ok.inj (ha.symm.trans ha')
  rfl

/-- The resource of Alice's block list. -/
def keptResource : String := "/user/%40alice%3Alocalhost/account_data/m.ignored_user_list"

theorem isDocument_keptResource : keptResource ≠ "/account/whoami" ∧ keptResource ≠ "/sync" ∧
    occurs "/account_data/".toList keptResource.toList = true ∧
      lastSegment keptResource = blockListType := by decide +kernel

section Usual
variable {request : Request} {server : ServerScript} (hr : request.resource = keptResource)
include hr

theorem usual_get (hm : request.method = .get) {body : Body}
    (hd : server.documents.lookup blockListType = some body) :
    usual request server = (some ⟨200, body⟩, server) := by
  obtain ⟨hown, hsync, hoccurs, hkey⟩ := isDocument_keptResource
  have hput : (Method.get == .put) = false := rfl
  simp only [usual, hr, hm, hd, hown, hsync, hoccurs, hkey, hput, if_false, if_true, Bool.true_and,
    Bool.false_eq_true, beq_self_eq_true]

theorem usual_get_none (hm : request.method = .get)
    (hd : server.documents.lookup blockListType = none) : usual request server =
      (reply 404 [("errcode", .text "M_NOT_FOUND"), ("error", .text "Not found")], server) := by
  obtain ⟨hown, hsync, hoccurs, hkey⟩ := isDocument_keptResource
  have hput : (Method.get == .put) = false := rfl
  simp only [usual, hr, hm, hd, hown, hsync, hoccurs, hkey, hput, if_false, if_true, Bool.true_and,
    Bool.false_eq_true, beq_self_eq_true]

theorem usual_put (hm : request.method = .put) {content : Value}
    (hb : request.body = some content) : usual request server =
      (reply 200 [], { server with
        documents := putDocument blockListType (.document content) server.documents }) := by
  obtain ⟨hown, hsync, hoccurs, hkey⟩ := isDocument_keptResource
  simp only [usual, hr, hm, hb, hown, hsync, hoccurs, hkey, if_false, if_true, Bool.true_and,
    beq_self_eq_true]
  rfl

end Usual

/-- A scripted homeserver keeps block lists. -/
theorem keepsBlockList_scripted : KeepsBlockList scripted onThisMachine "@alice:localhost"
    (HasBlockList "@alice:localhost") := by
  let own : List Char := "/_matrix/client/v3/account/whoami".toList
  let kept : List Char := "/_matrix/client/v3".toList ++ keptResource.toList
  have hown : onThisMachine.location.under (protocolPath ++ Endpoint.whoami.path).toList =
      .ok ⟨own, none, true⟩ := by decide +kernel
  have hkept : onThisMachine.location.under (protocolPath ++
      (Endpoint.document "@alice:localhost" blockListType).path).toList =
        .ok ⟨kept, none, true⟩ := by decide +kernel
  have hresource : ∀ method body,
      (onThisMachine.requestAt method body [] ⟨kept, none, true⟩).resource = keptResource := by
    intro method body
    show String.ofList ((behindProtocol kept).getD kept) = keptResource
    decide +kernel
  refine ⟨by decide, ⟨by decide +kernel, _, hown, rfl⟩, ⟨by decide +kernel, _, hkept, rfl⟩,
    ?_, ?_, ?_, ?_⟩
  · intro request server content hr hs
    have hwhoami : request.resource = "/account/whoami" := by
      rw [eq_requestAt hown hr]
      show String.ofList ((behindProtocol own).getD own) = _
      decide +kernel
    have husual : usual request server =
        (reply 200 [("user_id", .text server.account)], server) := by
      simp [usual, hwhoami]
    rw [respond_of_routes hs.routes, husual, hs.account]
    exact ⟨hs, _, rfl, rfl⟩
  · intro request server content hr hs
    obtain rfl := eq_requestAt hkept hr
    rw [respond_of_routes hs.routes, usual_get (hresource _ _) rfl hs.document]
    exact ⟨hs, rfl⟩
  · intro request server hr hs
    obtain rfl := eq_requestAt hkept hr
    rw [respond_of_routes hs.routes, usual_get_none (hresource _ _) rfl hs.document]
    exact ⟨hs, _, rfl, rfl⟩
  · intro request server old content hr hs
    obtain rfl := eq_requestAt hkept hr
    rw [respond_of_routes hs.routes, usual_put (hresource _ _) rfl rfl]
    exact ⟨⟨hs.routes, hs.account, lookup_putDocument _ _ _⟩, _, rfl⟩

end Account

end Web

/-- Bob is unblocked and blocked again, so he comes after Carol. -/
theorem blockLists_agree_alice :
    let s : Store := { saved := { users := [⟨some "@alice:localhost", some "alice", 0⟩] } }
    let t : Web.Session Web.ServerScript := { server := { account := "@alice:localhost" } }
    let p := (Store.Account.acting "localhost" (some "@alice:localhost")).provider
    let q := Web.Account.onThisMachine.provider Web.scripted
    let calls : List BlockListCall := [.block "@bob:localhost", .block "@carol:localhost",
      .unblock "@bob:localhost", .list, .block "@bob:localhost", .block "@carol:localhost",
      .unblock "@dave:localhost", .list]
    log (BlockListCall.run p) s calls = log (BlockListCall.run q) t calls ∧
      (p.blocked.outcome (after (BlockListCall.run p) s calls)).1 =
        .ok [.text "@carol:localhost", .text "@bob:localhost"] := by
  intro s t p q calls
  have hw : ∀ u, BlockListCall.block u ∈ calls → Json.unwritten? (.text u) = none := by
    intro u hu
    simp only [calls, List.mem_cons, BlockListCall.block.injEq, reduceCtorEq, false_or,
      List.not_mem_nil, or_false] at hu
    rcases hu with rfl | rfl | rfl | rfl <;> decide +kernel
  have hme : Store.Account.IsName "@alice:localhost" := ⟨by decide, by decide⟩
  have ht : Web.Account.Ready (Web.ServerScript.HasBlockList "@alice:localhost")
      "@alice:localhost" none t := ⟨rfl, .inl rfl, rfl, rfl, rfl⟩
  have h := blockLists_agree (s := s) "localhost" hme rfl rfl Web.Account.keepsBlockList_scripted ht
    calls hw
  exact ⟨h.1, by decide +kernel⟩

end PairChat
