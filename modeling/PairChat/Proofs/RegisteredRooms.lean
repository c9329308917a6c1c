import PairChat.Proofs.Listing
import PairChat.Proofs.RegistryUpdates
import PairChat.Proofs.Sending
import PairChat.Web.Script

/-!
# Registered rooms: how the registry of a homeserver is kept

A room is made or joined first, and listed in the registry only then.  What is put is what was read,
with the room in it.

* `Session.Since`: what was exchanged since, with a rule for each way of building actions;
* `Account.Sent`, `Account.Met`, `Account.Looked`: what a request, the look-up of the account and
  that of the registry can exchange;
* `registry_updates_exact`: **the registry is put at most once, after the room was made or joined
  and after the registry was read**.  There is one exception (`Account.Overwrites`): joining takes a
  homeserver that does not know whose account it is for one that has no registry.
-/

namespace PairChat.Web

open PairChat.Action

variable {ν α β : Type}

/-- A request, and what came back. -/
abbrev Exchange : Type := Request × Option Response

namespace Exchange

/-- The request was answered with a status below 400 and this value. -/
def Gives (x : Exchange) (v : Value) : Prop :=
  ∃ r, x.2 = some r ∧ r.status < 400 ∧ r.answer = .ok v

/-- The request was refused as one for what does not exist. -/
def IsMissing (x : Exchange) : Prop :=
  ∃ r rejection, x.2 = some r ∧ r.answer = .error (.rejected rejection) ∧ rejection.isNotFound

/-- The answer shows a registry; without a document it is empty. -/
inductive Shows (x : Exchange) : Registry String → Prop
  | document {v : Value} {reg : Option (Registry String)} (hv : x.Gives v)
      (hreg : Registry.ofContent v = .ok reg) : x.Shows (reg.getD [])
  | missing (hx : x.IsMissing) : x.Shows []

/-- Nothing is put. -/
def NoPut (xs : List Exchange) : Prop := ∀ x ∈ xs, x.1.method ≠ .put

theorem noPut_nil : NoPut [] := fun _ h => absurd h List.not_mem_nil

theorem noPut_singleton {x : Exchange} (h : x.1.method ≠ .put) : NoPut [x] :=
  List.forall_mem_singleton.mpr h

theorem NoPut.append {xs ys : List Exchange} (hx : NoPut xs) (hy : NoPut ys) :
    NoPut (xs ++ ys) :=
  List.forall_mem_append.mpr ⟨hx, hy⟩

/-- What is put, in order. -/
def puts (xs : List Exchange) : List Exchange := xs.filter fun x => x.1.method = .put

theorem NoPut.puts_eq {xs : List Exchange} (hx : NoPut xs) : puts xs = [] := by
  unfold puts
  rw [List.filter_eq_nil_iff]
  exact fun x h => by simpa using hx x h

theorem NoPut.length_puts_append {xs : List Exchange} (hx : NoPut xs) (x : Exchange) :
    (puts (xs ++ [x])).length ≤ 1 := by
  have hone : puts (xs ++ [x]) = puts xs ++ puts [x] := List.filter_append xs [x]
  rw [hone, hx.puts_eq]
  exact List.length_filter_le _ _

end Exchange

open Exchange

theorem Response.status_lt_of_answer {r : Response} {v : Value} (h : r.answer = .ok v) :
    r.status < 400 := by
  by_contra hs
  unfold Response.answer at h
  rw [if_pos (by omega)] at h
  split at h
  · split_ifs at h
  · cases h
  · cases h

/-! ### What is exchanged by an action -/

namespace Session

variable {s : Session ν} {x : Action (Session ν) α} {r : Except Failure α}
  {Q Q' : Except Failure α → Session ν → List Exchange → Prop}

/-- What the action exchanges has the property, together with its result and the session that it
leaves. -/
def Since (s : Session ν) (x : Action (Session ν) α)
    (Q : Except Failure α → Session ν → List Exchange → Prop) : Prop :=
  ∃ new, (x.outcome s).2.exchanges = s.exchanges ++ new ∧ Q (x.outcome s).1 (x.outcome s).2 new

theorem Since.mono (h : s.Since x Q) (hq : ∀ r t new, Q r t new → Q' r t new) : s.Since x Q' :=
  h.imp fun _ hn => ⟨hn.1, hq _ _ _ hn.2⟩

theorem Since.and_outcome (h : s.Since x Q) :
    s.Since x fun r t new => Q r t new ∧ x.outcome s = (r, t) :=
  h.imp fun _ hn => ⟨hn.1, hn.2, rfl⟩

theorem since_of_outcome {t : Session ν} (h : x.outcome s = (r, t))
    (ht : t.exchanges = s.exchanges) (hq : Q r t []) : s.Since x Q := by
  refine ⟨[], ?_, ?_⟩ <;> rw [h]
  · exact ht.trans (List.append_nil _).symm
  · exact hq

theorem Since.congr {y : Action (Session ν) α} (hy : x.outcome s = y.outcome s)
    (h : s.Since y Q) : s.Since x Q := by
  unfold Since
  rw [hy]
  exact h

/-- Of two actions one after the other. -/
theorem Since.bind {f : α → Action (Session ν) β}
    {Q' : Except Failure β → Session ν → List Exchange → Prop} (hx : s.Since x Q)
    (herror : ∀ e t new, Q (.error e) t new → Q' (.error e) t new)
    (hok : ∀ v t new, Q (.ok v) t new → t.Since (f v) fun r u more => Q' r u (new ++ more)) :
    s.Since (x >>= f) Q' := by
  obtain ⟨new, hnew, hq⟩ := hx
  rcases hr : x.outcome s with ⟨e | v, t⟩ <;> rw [hr] at hnew hq
  · refine ⟨new, ?_, ?_⟩ <;> rw [outcome_bind_error hr]
    · exact hnew
    · exact herror e t new hq
  · obtain ⟨more, hmore, hq'⟩ := hok v t new hq
    refine ⟨new ++ more, ?_, ?_⟩ <;> rw [outcome_bind_ok hr]
    · rw [hmore, hnew, List.append_assoc]
    · exact hq'

theorem Since.lift_bind {r : Except Failure α} {f : α → Action (Session ν) β}
    {Q : Except Failure β → Session ν → List Exchange → Prop}
    (herror : ∀ e, r = .error e → Q (.error e) s []) (hok : ∀ v, r = .ok v → s.Since (f v) Q) :
    s.Since (lift r >>= f) Q := by
  rcases r with e | v
  · exact since_of_outcome rfl rfl (herror e rfl)
  · exact (hok v rfl).congr (outcome_bind_ok (outcome_lift _ s))

/-- Of an action whose answer is replaced. -/
theorem Since.bind_pure {c : β} {P : List Exchange → Prop} (hx : s.Since x fun _ _ new => P new) :
    s.Since (x >>= fun _ => pure c) fun _ _ new => P new := by
  refine hx.bind (fun _ _ _ hp => hp) fun _ _ new hp => since_of_outcome rfl rfl ?_
  rwa [List.append_nil]

/-- Of an action with a missing answer replaced. -/
theorem Since.orElseMissing {value : α} (hx : s.Since x Q)
    (hok : ∀ v t new, Q (.ok v) t new → Q' (.ok v) t new)
    (hmissing : ∀ e t new, Q (.error e) t new → e.isNotFound = true → Q' (.ok value) t new)
    (herror : ∀ e t new, Q (.error e) t new → e.isNotFound = false → Q' (.error e) t new) :
    s.Since (Account.orElseMissing value x) Q' := by
  obtain ⟨new, hnew, hq⟩ := hx
  unfold Account.orElseMissing Since
  rw [outcome_recover]
  rcases hr : x.outcome s with ⟨e | v, t⟩ <;> rw [hr] at hnew hq
  · refine ⟨new, hnew, ?_⟩
    dsimp only
    rcases hf : e.isNotFound with _ | _
    · exact herror e t new hq hf
    · exact hmissing e t new hq hf
  · exact ⟨new, hnew, hok v t new hq⟩

end Session

namespace Account

variable {h : Homeserver ν} {a : Account} {s : Session ν} {method : Method} {endpoint : Endpoint}
  {body : Option Value} {x : Exchange} {f : Failure}

/-! ### Requests -/

/-- The exchange asks for this. -/
def Asks (a : Account) (method : Method) (endpoint : Endpoint) (body : Option Value)
    (x : Exchange) : Prop :=
  ∃ hasScheme, a.request method endpoint body [] = .ok (x.1, hasScheme)

theorem Asks.method_eq (hx : a.Asks method endpoint body x) : x.1.method = method := by
  obtain ⟨_, hr⟩ := hx
  obtain ⟨-, -, _, -, hr, -⟩ := request_eq_ok_iff.mp hr
  rw [hr]
  rfl

theorem Asks.noPut (hx : a.Asks method endpoint body x) (hm : method ≠ .put) : NoPut [x] :=
  noPut_singleton (hx.method_eq ▸ hm)

/-- What cannot be asked for is not what does not exist. -/
theorem isNotFound_of_request (hr : a.request method endpoint body [] = .error f) :
    f.isNotFound = false := by
  unfold request at hr
  rcases hw : endpoint.isWhole with _ | _
  · rw [hw] at hr
    cases hr
    rfl
  rcases hu : a.location.under (protocolPath ++ endpoint.path).toList with e | address
  · rw [hw, hu] at hr
    cases hr
    unfold Location.under at hu
    dsimp only at hu
    split_ifs at hu <;> cases hu <;> rfl
  rcases hb : body.bind Json.unwritten? with _ | g
  · rw [hw, hu, hb] at hr
    cases hr
  · rw [hw, hu, hb] at hr
    cases hr
    obtain ⟨v, -, hv⟩ := Option.bind_eq_some_iff.mp hb
    unfold Json.unwritten? at hv
    split_ifs at hv <;> cases hv <;> rfl

/-- **What comes of a request**: it cannot be sent, it fails, or it is answered. -/
inductive Sent (a : Account) (method : Method) (endpoint : Endpoint) (body : Option Value)
    (s : Session ν) : Except Failure Value → Session ν → List Exchange → Prop
  | unsent {f : Failure} (hf : f.isNotFound = false) : Sent a method endpoint body s (.error f) s []
  | failed {x : Exchange} {t : Session ν} {f : Failure} (hx : a.Asks method endpoint body x)
      (ht : t.toKnown = s.toKnown) (hf : f.isNotFound = true → x.IsMissing) :
      Sent a method endpoint body s (.error f) t [x]
  | answered {x : Exchange} {t : Session ν} {v : Value} (hx : a.Asks method endpoint body x)
      (ht : t.toKnown = s.toKnown) (hv : x.Gives v) :
      Sent a method endpoint body s (.ok v) t [x]

theorem since_send :
    s.Since (a.send h method endpoint body []) (a.Sent method endpoint body s) := by
  rcases hr : a.request method endpoint body [] with f | ⟨request, hasScheme⟩
  · exact Session.since_of_outcome (by rw [outcome_send, hr]) rfl
      (.unsent (isNotFound_of_request hr))
  rcases ho : s.isOpen with _ | _
  · have hclosed : (a.send h method endpoint body []).outcome s =
        (.error .connectionClosed, s) := by
      rw [outcome_send, hr]
      exact if_neg (by simp [ho])
    exact Session.since_of_outcome hclosed rfl (.unsent rfl)
  refine ⟨[(request, (h.respond request s.server).1)], ?_, ?_⟩ <;> rw [outcome_send_ok hr ho]
  · rfl
  have hx : a.Asks method endpoint body (request, (h.respond request s.server).1) := ⟨hasScheme, hr⟩
  rcases hresponse : (h.respond request s.server).1 with _ | response <;> rw [hresponse] at hx
  · exact .failed hx rfl (by simp [Failure.isNotFound])
  rcases hasScheme with _ | _
  · exact .failed hx rfl (by simp [Failure.isNotFound])
  · show Sent a method endpoint body s response.answer _ _
    rcases hv : response.answer with f | v
    · refine .failed hx rfl fun hf => ?_
      cases f with
      | rejected rejection => exact ⟨response, rejection, rfl, hv, hf⟩
      | _ => cases hf
    · exact .answered hx rfl ⟨response, rfl, Response.status_lt_of_answer hv, hv⟩

/-! ### The account -/

/-- What is asked to learn which account it is: nothing if it is known. -/
inductive LooksUp (a : Account) (s : Session ν) : List Exchange → Prop
  | known (hs : s.account ≠ .null) : LooksUp a s []
  | asked {x : Exchange} {v : Value} (hs : s.account = .null) (hx : a.Asks .get .whoami none x)
      (hv : x.Gives v) : LooksUp a s [x]

theorem LooksUp.noPut {xs : List Exchange} (hl : a.LooksUp s xs) : NoPut xs := by
  cases hl with
  | known => exact noPut_nil
  | asked _ hx _ => exact hx.noPut (by decide)

/-- **What comes of looking up the account**: it is known from now on, the homeserver says that
there is none, or it fails in another way. -/
inductive Met (a : Account) (s : Session ν) :
    Except Failure Value → Session ν → List Exchange → Prop
  | named {account : Value} {t : Session ν} {lookup : List Exchange} (hl : a.LooksUp s lookup)
      (ht : t.account = account) (hne : account ≠ .null)
      (hs : s.account ≠ .null → account = s.account) : Met a s (.ok account) t lookup
  | missing {x : Exchange} {t : Session ν} {f : Failure} (hs : s.account = .null)
      (ht : t.account = .null) (hx : a.Asks .get .whoami none x) (hm : x.IsMissing) :
      Met a s (.error f) t [x]
  | failed {t : Session ν} {f : Failure} {new : List Exchange} (hf : f.isNotFound = false)
      (hn : NoPut new) : Met a s (.error f) t new

theorem entry_isNotFound {key : String} {missing v : Value} (he : entry key missing v = .error f) :
    f.isNotFound = false := by
  unfold entry at he
  split at he <;> cases he
  rfl

theorem outcome_me_of_known (hs : s.account ≠ .null) : (a.me h).outcome s =
    (if s.account.isEmpty then .error (.noAccount .reply) else .ok s.account, s) := by
  have hidentity : (a.identity h).outcome s = (.ok s.account, s) := by
    unfold identity
    rw [outcome_bind_ok (outcome_getState s), if_pos hs]
    rfl
  unfold me
  rw [outcome_bind_ok hidentity]
  split_ifs <;> rfl

theorem outcome_me_of_unknown (hs : s.account = .null) : (a.me h).outcome s =
    (a.get h .whoami >>= fun reply => do
      let account ← lift (entry "user_id" .null (orEmpty reply))
      modify fun s => { s with account }
      if account.isEmpty then throw (.noAccount .reply) else return account).outcome s := by
  have hidentity : (a.identity h).outcome s =
      (a.get h .whoami >>= fun reply => do
        let account ← lift (entry "user_id" .null (orEmpty reply))
        modify fun s => { s with account }
        return account).outcome s := by
    unfold identity
    rw [outcome_bind_ok (outcome_getState s), if_neg (by simpa using hs)]
  unfold me
  rw [outcome_bind, hidentity, ← outcome_bind]
  simp only [bind_assoc, pure_bind]

theorem since_me : s.Since (a.me h) (a.Met s) := by
  by_cases hs : s.account = .null
  · refine Session.Since.congr (outcome_me_of_unknown hs) ?_
    refine since_send.bind (fun f t new hsent => ?_) fun v t new hsent => ?_
    · cases hsent with
      | unsent hf => exact .failed hf noPut_nil
      | failed hx ht hf =>
        rcases hfound : f.isNotFound with _ | _
        · exact .failed hfound (hx.noPut (by decide))
        · exact .missing hs (congrArg Known.account ht |>.trans hs) hx (hf hfound)
    · cases hsent with | answered hx ht hv =>
      have hn := hx.noPut (by decide)
      rcases he : entry "user_id" .null (orEmpty v) with f | account
      · exact Session.since_of_outcome rfl rfl (.failed (entry_isNotFound he) hn)
      refine Session.since_of_outcome (t := { t with account })
        (r := if account.isEmpty then .error (.noAccount .reply) else .ok account) ?_ rfl ?_
      · show ((if account.isEmpty then throw _ else pure account :
          Action (Session ν) Value)).outcome { t with account } = _
        split_ifs <;> rfl
      · split_ifs with hempty
        · exact .failed rfl hn
        · refine .named (.asked hs hx hv) rfl ?_ fun hne => absurd hs hne
          rintro rfl
          exact hempty rfl
  · have ho := outcome_me_of_known (h := h) (a := a) hs
    rcases hempty : s.account.isEmpty with _ | _
    · refine Session.since_of_outcome (r := .ok s.account) (by rw [ho, hempty]; rfl) rfl ?_
      exact .named (.known hs) rfl hs fun _ => rfl
    · exact Session.since_of_outcome (by rw [ho, hempty]; rfl) rfl (.failed rfl noPut_nil)

theorem Met.noPut {r : Except Failure Value} {t : Session ν} {new : List Exchange}
    (hm : a.Met s r t new) : NoPut new := by
  cases hm with
  | named hl => exact hl.noPut
  | missing _ _ hx => exact hx.noPut (by decide)
  | failed _ hn => exact hn

theorem LooksUp.eq_nil {lookup : List Exchange} (hl : a.LooksUp s lookup) (hs : s.account ≠ .null) :
    lookup = [] := by
  cases hl with
  | known => rfl
  | asked hs' => exact absurd hs' hs

theorem eq_of_me {owner : String} {account : Value} (hs : s.account = .text owner)
    (hme : ((a.me h).outcome s).1 = .ok account) : account = .text owner := by
  rw [outcome_me_of_known (by rw [hs]; simp), hs] at hme
  dsimp only at hme
  split_ifs at hme
  exact (Except.ok.inj hme).symm

theorem segment_isNotFound {account : Value} (hf : segment account = .error f) :
    f.isNotFound = false := by
  unfold segment at hf
  split at hf <;> cases hf
  rfl

theorem eq_text_of_segment {account : Value} {owner : String} (ho : segment account = .ok owner) :
    account = .text owner := by
  unfold segment at ho
  split at ho <;> cases ho
  rfl

/-! ### The registry -/

section Documents
variable {type : String} {content : Value}

/-- **What comes of reading a document**: it is given, or it is missing; or the homeserver does not
even say whose it would be, and that is taken for a missing document. -/
inductive Read (a : Account) (h : Homeserver ν) (type : String) (s : Session ν) :
    Except Failure Value → Session ν → List Exchange → Prop
  | given {owner : String} {v : Value} {lookup : List Exchange} {get : Exchange} {t : Session ν}
      (hme : ((a.me h).outcome s).1 = .ok (.text owner)) (hl : a.LooksUp s lookup)
      (ht : t.account = .text owner) (hget : a.Asks .get (.document owner type) none get)
      (hv : get.Gives v) : Read a h type s (.ok v) t (lookup ++ [get])
  | missing {owner : String} {lookup : List Exchange} {get : Exchange} {t : Session ν}
      (hme : ((a.me h).outcome s).1 = .ok (.text owner)) (hl : a.LooksUp s lookup)
      (ht : t.account = .text owner) (hget : a.Asks .get (.document owner type) none get)
      (hm : get.IsMissing) : Read a h type s (.ok .null) t (lookup ++ [get])
  | unknown {x : Exchange} {t : Session ν} (hs : s.account = .null) (ht : t.account = .null)
      (hx : a.Asks .get .whoami none x) (hm : x.IsMissing) : Read a h type s (.ok .null) t [x]
  | failed {f : Failure} {t : Session ν} {new : List Exchange} (hn : NoPut new) :
      Read a h type s (.error f) t new

theorem since_document : s.Since (a.document h type) (a.Read h type s) := by
  -- Before the answer for a missing document is put in its place.
  have hread : s.Since (do
      let user ← lift (segment (← a.me h))
      a.get h (.document user type)) fun r t new =>
        (∀ v, r = .ok v → a.Read h type s (.ok v) t new) ∧
        ∀ f, r = .error f → NoPut new ∧
          (f.isNotFound = true → a.Read h type s (.ok .null) t new) := by
    refine since_me.and_outcome.bind (fun f t new ⟨hmet, _⟩ => ⟨fun _ h => (nomatch h), ?_⟩)
      fun account t lookup ⟨hmet, hme⟩ => ?_
    · rintro _ ⟨⟩
      refine ⟨hmet.noPut, fun hf => ?_⟩
      cases hmet with
      | missing hs ht hx hm => exact .unknown hs ht hx hm
      | failed hf' => simp [hf'] at hf
    cases hmet with | named hl ht _ _ =>
    refine Session.Since.lift_bind (fun f hf => ⟨fun _ h => (nomatch h), ?_⟩) fun owner howner => ?_
    · rintro _ ⟨⟩
      exact ⟨by simpa using hl.noPut, fun hnot => by simp [segment_isNotFound hf] at hnot⟩
    obtain rfl := eq_text_of_segment howner
    have hme := congrArg Prod.fst hme
    refine since_send.mono fun r u new hsent => ?_
    cases hsent with
    | unsent hf =>
      refine ⟨fun _ h => (nomatch h), ?_⟩
      rintro _ ⟨⟩
      exact ⟨by simpa using hl.noPut, fun hnot => by simp [hf] at hnot⟩
    | failed hx hu hf =>
      refine ⟨fun _ h => (nomatch h), ?_⟩
      rintro _ ⟨⟩
      exact ⟨hl.noPut.append (hx.noPut (by decide)), fun hnot =>
        .missing hme hl (by rw [hu]; exact ht) hx (hf hnot)⟩
    | answered hx hu hv =>
      refine ⟨?_, fun _ h => (nomatch h)⟩
      rintro _ ⟨⟩
      exact .given hme hl (by rw [hu]; exact ht) hx hv
  exact hread.orElseMissing (fun v _ _ hq => hq.1 v rfl) (fun f _ _ hq hf => (hq.2 f rfl).2 hf)
    fun f _ _ hq _ => .failed (hq.2 f rfl).1

/-- What comes of looking up the registry. -/
inductive Looked (a : Account) (h : Homeserver ν) (s : Session ν) :
    Except Failure (Option (Registry String)) → Session ν → List Exchange → Prop
  | shown {owner : String} {reg : Option (Registry String)} {lookup : List Exchange}
      {get : Exchange} {t : Session ν} (hme : ((a.me h).outcome s).1 = .ok (.text owner))
      (hl : a.LooksUp s lookup) (ht : t.account = .text owner)
      (hget : a.Asks .get (.document owner registryType) none get)
      (hreg : get.Shows (reg.getD [])) : Looked a h s (.ok reg) t (lookup ++ [get])
  | unknown {x : Exchange} {t : Session ν} (hs : s.account = .null) (ht : t.account = .null)
      (hx : a.Asks .get .whoami none x) (hm : x.IsMissing) : Looked a h s (.ok none) t [x]
  | failed {f : Failure} {t : Session ν} {new : List Exchange} (hn : NoPut new) :
      Looked a h s (.error f) t new

theorem Read.noPut {r : Except Failure Value} {t : Session ν} {new : List Exchange}
    (hr : a.Read h type s r t new) : NoPut new := by
  cases hr with
  | given _ hl _ hget | missing _ hl _ hget => exact hl.noPut.append (hget.noPut (by decide))
  | unknown _ _ hx => exact hx.noPut (by decide)
  | failed hn => exact hn

theorem since_registry : s.Since (a.registry? h) (a.Looked h s) := by
  refine since_document.bind (fun f t new hread => .failed hread.noPut) fun v t new hread => ?_
  rcases hreg : Registry.ofContent v with f | reg
  · refine Session.since_of_outcome rfl rfl (.failed ?_)
    simpa using hread.noPut
  · refine Session.since_of_outcome (r := .ok reg) rfl rfl ?_
    rw [List.append_nil]
    cases hread with
    | given hme hl ht hget hv => exact .shown hme hl ht hget (.document hv hreg)
    | missing hme hl ht hget hm =>
      cases hreg
      exact .shown hme hl ht hget (.missing hm)
    | unknown hs ht hx hm =>
      cases hreg
      exact .unknown hs ht hx hm

theorem Looked.noPut {r : Except Failure (Option (Registry String))} {t : Session ν}
    {new : List Exchange} (hr : a.Looked h s r t new) : NoPut new := by
  cases hr with
  | shown _ hl _ hget => exact hl.noPut.append (hget.noPut (by decide))
  | unknown _ _ hx => exact hx.noPut (by decide)
  | failed hn => exact hn

/-- The document of the account is put. -/
inductive Puts (a : Account) (h : Homeserver ν) (type : String) (content : Value)
    (s : Session ν) : List Exchange → Prop
  | mk {owner : String} {lookup : List Exchange} {put : Exchange}
      (hme : ((a.me h).outcome s).1 = .ok (.text owner)) (hl : a.LooksUp s lookup)
      (hput : a.Asks .put (.document owner type) (some content) put) :
      Puts a h type content s (lookup ++ [put])

theorem since_setDocument : s.Since (a.setDocument h type content) fun _ _ new =>
    NoPut new ∨ a.Puts h type content s new := by
  refine since_me.and_outcome.bind (fun f t new ⟨hmet, _⟩ => .inl hmet.noPut)
    fun account t lookup ⟨hmet, hme⟩ => ?_
  have hn : NoPut (lookup ++ []) := by simpa using hmet.noPut
  refine Session.Since.lift_bind (fun f hf => .inl hn) fun owner howner => ?_
  obtain rfl := eq_text_of_segment howner
  cases hmet with | named hl ht _ _ =>
  have hputs : ∀ x, a.Asks .put (.document owner type) (some content) x →
      a.Puts h type content s (lookup ++ [x]) := fun x hx => .mk (congrArg Prod.fst hme) hl hx
  refine since_send.bind (fun f u new hsent => ?_) fun v u new hsent => ?_
  · cases hsent with
    | unsent => exact .inl hn
    | failed hx => exact .inr (hputs _ hx)
  · cases hsent with | answered hx =>
    exact Session.since_of_outcome rfl rfl (.inr (hputs _ hx))

end Documents

theorem Puts.eq_singleton {type owner : String} {content : Value} {new : List Exchange}
    (hp : a.Puts h type content s new) (hs : s.account = .text owner) :
    ∃ put, new = [put] ∧ a.Asks .put (.document owner type) (some content) put := by
  obtain ⟨hme, hl, hput⟩ := hp
  cases eq_of_me hs hme
  rw [hl.eq_nil (by rw [hs]; simp)]
  exact ⟨_, rfl, hput⟩

theorem since_putRegistry {update : Registry Value × Bool} :
    s.Since (a.putRegistry h update) fun _ _ new => NoPut new ∨
      update.2 = true ∧ a.Puts h registryType (update.1.toContent id) s new := by
  unfold putRegistry
  split_ifs with hu
  · exact since_setDocument.mono fun _ _ _ hw => hw.imp_right fun hp => ⟨hu, hp⟩
  · exact Session.since_of_outcome rfl rfl (.inl noPut_nil)

/-! ### Making and joining rooms -/

/-- The room is made, then the registry is read, and then it is put with the room under the own
account, and under no other one. -/
inductive EntersCreated (a : Account) (h : Homeserver ν) (s : Session ν) (user : String) :
    List Exchange → Prop
  | mk {owner : String} {lookup : List Exchange} {post get put : Exchange} {reply room : Value}
      {old : Registry String} {listed : Registry Value}
      (hme : ((a.me h).outcome s).1 = .ok (.text owner)) (hl : a.LooksUp s lookup)
      (hpost : a.Asks .post .createRoom (some (newRoom user)) post) (hreply : post.Gives reply)
      (hroom : roomOf reply = .ok room)
      (hget : a.Asks .get (.document owner registryType) none get) (hold : get.Shows old)
      (hput : a.Asks .put (.document owner registryType) (some (listed.toContent id)) put)
      (hlisted : Registry.Enters owner room (·.filter (· ≠ room)) (reported (some old)) listed) :
      EntersCreated a h s user (lookup ++ [post, get, put])

/-- The registry is read, then the room is joined, and then the registry is put with the room under
the account besides, where it was not listed yet. -/
inductive EntersJoined (a : Account) (h : Homeserver ν) (s : Session ν) (user room : String) :
    List Exchange → Prop
  | mk {owner : String} {lookup : List Exchange} {get post put : Exchange} {reply : Value}
      {old : Registry String} {listed : Registry Value}
      (hme : ((a.me h).outcome s).1 = .ok (.text owner)) (hl : a.LooksUp s lookup)
      (hget : a.Asks .get (.document owner registryType) none get) (hold : get.Shows old)
      (hpost : a.Asks .post (.join room) (some (.map [])) post) (hreply : post.Gives reply)
      (hfresh : room ∉ old.roomsOf user)
      (hput : a.Asks .put (.document owner registryType) (some (listed.toContent id)) put)
      (hlisted : Registry.Enters user (.text room) id (reported (some old)) listed) :
      EntersJoined a h s user room (lookup ++ [get, post, put])

/-- The homeserver does not know whose account it is, the room is joined, and then it does know and
the registry is put with nothing but this room, without being read. -/
inductive Overwrites (a : Account) (s : Session ν) (user room : String) : List Exchange → Prop
  | mk {owner : String} {lookup post again put : Exchange} {reply v : Value}
      (hs : s.account = .null) (hlookup : a.Asks .get .whoami none lookup)
      (hm : lookup.IsMissing) (hpost : a.Asks .post (.join room) (some (.map [])) post)
      (hreply : post.Gives reply) (hagain : a.Asks .get .whoami none again) (hv : again.Gives v)
      (hput : a.Asks .put (.document owner registryType)
        (some (Registry.toContent id [(user, [.text room])])) put) :
      Overwrites a s user room [lookup, post, again, put]

theorem roomsOf_reported (reg : Registry String) (user : String) :
    (reported (some reg)).roomsOf user = (reg.roomsOf user).map .text := by
  induction reg with
  | nil => rfl
  | cons x reg ih =>
    obtain ⟨u, rooms⟩ := x
    have hcons : reported (some ((u, rooms) :: reg)) =
        (u, rooms.map .text) :: reported (some reg) := rfl
    rw [hcons, Registry.roomsOf_cons, Registry.roomsOf_cons, ih]
    split_ifs <;> rfl

theorem since_create (user : String) : s.Since (a.create h user) fun _ _ new =>
    NoPut new ∨ a.EntersCreated h s user new := by
  refine since_me.and_outcome.bind (fun f t new ⟨hmet, _⟩ => .inl hmet.noPut)
    fun account t lookup ⟨hmet, hme⟩ => ?_
  have hn := hmet.noPut
  refine since_send.bind (fun f u new hsent => .inl (hn.append ?_)) fun reply u new hsent => ?_
  · cases hsent with
    | unsent => exact noPut_nil
    | failed hx => exact hx.noPut (by decide)
  cases hsent with | answered hpost hu hreply =>
  have hn := hn.append (hpost.noPut (by decide))
  refine Session.Since.lift_bind (fun f hf => .inl (by simpa using hn)) fun room hroom => ?_
  refine since_registry.bind (fun f v new hlook => .inl ?_) fun reg v new hlook => ?_
  · rw [← List.append_assoc]
    exact hn.append hlook.noPut
  have hn := hn.append hlook.noPut
  refine Session.Since.lift_bind (fun f hf => .inl (by simpa using hn)) fun owner howner => ?_
  obtain rfl := eq_text_of_segment howner
  -- The account was looked up first of all, so nothing is asked about it any more.
  cases hmet with | named hl ht _ _ =>
  have hu : u.account = .text owner := (congrArg Known.account hu).trans ht
  cases hlook with
  | unknown hs => exact absurd (hu.symm.trans hs) (by simp)
  | shown hme' hl' hv hget hold =>
    cases eq_of_me hu hme'
    cases hl'.eq_nil (by rw [hu]; simp)
    refine Session.Since.bind_pure (since_putRegistry.mono fun _ _ more hw => ?_)
    rcases hw with hw | ⟨-, hw⟩
    · exact .inl (by simpa using hn.append hw)
    · obtain ⟨put, rfl, hput⟩ := hw.eq_singleton hv
      exact .inr (.mk (congrArg Prod.fst hme) hl hpost hreply hroom hget hold hput
        (Registry.enters_addCreated _ _ _))

theorem since_join (user room : String) : s.Since (a.join h user room) fun _ _ new =>
    NoPut new ∨ a.EntersJoined h s user room new ∨ a.Overwrites s user room new := by
  refine since_registry.bind (fun f t new hlook => .inl hlook.noPut) fun reg t new hlook => ?_
  have hn := hlook.noPut
  refine since_send.bind (fun f u new hsent => .inl (hn.append ?_)) fun reply u new hsent => ?_
  · cases hsent with
    | unsent => exact noPut_nil
    | failed hx => exact hx.noPut (by decide)
  cases hsent with | answered hpost hu hreply =>
  have hn := hn.append (hpost.noPut (by decide))
  refine since_putRegistry.mono fun _ _ more hw => ?_
  rcases hw with hw | ⟨hchanged, hw⟩
  · exact .inl (by simpa using hn.append hw)
  have hu := congrArg Known.account hu
  right
  cases hlook with
  | shown hme hl ht hget hold =>
    obtain ⟨put, rfl, hput⟩ := hw.eq_singleton (hu.trans ht)
    rw [List.append_assoc]
    refine .inl (.mk hme hl hget hold hpost hreply (fun hroom => ?_) hput
      (Registry.enters_addJoined _ _ _))
    refine Registry.addJoined_changed_iff.mp hchanged ?_
    exact (roomsOf_reported _ _).symm ▸ List.mem_map_of_mem hroom
  | unknown hs ht hx hm =>
    obtain ⟨hme, hl, hput⟩ := hw
    cases hl with
    | known hne => exact absurd (hu.trans ht) hne
    | asked _ hagain hv => exact .inr (.mk hs hx hm hpost hreply hagain hv hput)

theorem EntersCreated.length_puts {user : String} {new : List Exchange}
    (he : a.EntersCreated h s user new) : (puts new).length ≤ 1 := by
  cases he with | @mk owner lookup post get put _ _ _ _ _ hl hpost _ _ hget =>
  have hn : NoPut (lookup ++ [post] ++ [get]) :=
    (hl.noPut.append (hpost.noPut (by decide))).append (hget.noPut (by decide))
  simpa using hn.length_puts_append put

theorem EntersJoined.length_puts {user room : String} {new : List Exchange}
    (he : a.EntersJoined h s user room new) : (puts new).length ≤ 1 := by
  cases he with | @mk owner lookup get post put _ _ _ _ hl hget _ hpost =>
  have hn : NoPut (lookup ++ [get] ++ [post]) :=
    (hl.noPut.append (hget.noPut (by decide))).append (hpost.noPut (by decide))
  simpa using hn.length_puts_append put

theorem Overwrites.length_puts {user room : String} {new : List Exchange}
    (ho : a.Overwrites s user room new) : (puts new).length ≤ 1 := by
  cases ho with | @mk owner lookup post again put _ _ _ hlookup _ hpost _ hagain =>
  have hn : NoPut ([lookup] ++ [post] ++ [again]) :=
    ((hlookup.noPut (by decide)).append (hpost.noPut (by decide))).append
      (hagain.noPut (by decide))
  exact hn.length_puts_append put

/-- **Registry updates are ordered and lose nothing**, whatever the homeserver answers. A room that
is made or joined is put into the registry at most once, after it was made or joined and after the
registry was read; and what is put is what was read, with the room in it. The one exception is
joining a room while it is not known whose account it is. -/
theorem registry_updates_exact (h : Homeserver ν) (a : Account) (s : Session ν) :
    (∀ user, s.Since (a.create h user) fun _ _ new => (puts new).length ≤ 1 ∧
      (NoPut new ∨ a.EntersCreated h s user new)) ∧
    (∀ user room, s.Since (a.join h user room) fun _ _ new => (puts new).length ≤ 1 ∧
      (NoPut new ∨ a.EntersJoined h s user room new ∨ a.Overwrites s user room new)) ∧
    ∀ reg : Registry String, Registry.ofContent (reg.toContent .text) = .ok (some reg) := by
  refine ⟨fun user => (since_create user).mono fun _ _ new hnew => ⟨?_, hnew⟩,
    fun user room => (since_join user room).mono fun _ _ new hnew => ⟨?_, hnew⟩,
    Registry.ofContent_toContent⟩
  · rcases hnew with hn | he
    · simp [hn.puts_eq]
    · exact he.length_puts
  · rcases hnew with hn | he | ho
    · simp [hn.puts_eq]
    · exact he.length_puts
    · exact ho.length_puts

/-- **A registry may be lost.** Once the homeserver does not know the token, and so it is not asked
for the registry either; the room is joined, and is all that is left. -/
theorem join_overwrites :
    let a : Account := ⟨"http://localhost", ⟨true, true, [], [], none⟩, .text "token"⟩
    let old : Value := .object [("@bob:localhost", .list [.text "!old:localhost"])]
    let s : Session ServerScript := { server :=
      { account := "@alice:localhost"
        documents := [("m.direct", .document old)]
        routes := [⟨"GET", "/account/whoami", some ⟨404, .text ""⟩, some 1⟩] } }
    let o := (a.join scripted "@bob:localhost" "!new:localhost").outcome s
    o.1 = .ok () ∧
      o.2.sent.map (fun r => (r.method, r.resource)) = [(.get, "/account/whoami"),
        (.post, "/join/%21new%3Alocalhost"), (.get, "/account/whoami"),
        (.put, "/user/%40alice%3Alocalhost/account_data/m.direct")] ∧
      o.2.server.documents = [("m.direct", .document
        (.object [("@bob:localhost", .list [.text "!new:localhost"])]))] := by
  decide +kernel

end Account

end PairChat.Web
