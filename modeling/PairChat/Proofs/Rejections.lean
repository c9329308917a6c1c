import PairChat.Proofs.Sending
import PairChat.Web.Script
import Mathlib.Data.List.Nodup

/-!
# Rejections: what becomes of a refused request

Every response with a status from 400 on is meant to be a rejection with this status.  It is one if
its body is a mapping or no document at all (`Body.Tells`); from a document of another kind, or one
that is nested too deep, no code and no text can be taken, and then the request fails in a way that
nobody is meant to handle (`answersRefusal_answer`).

So what a homeserver does not know is reported as missing, if the body of its answer tells why
(`refusals_exact`).
-/

namespace PairChat

/-! ### Why a document cannot be read -/

namespace Json

/-- Why a text is not read as a document. -/
inductive IsReadFailure : Failure → Prop
  | form : IsReadFailure .badJson
  | number : IsReadFailure (.shape .value)
  | depth : IsReadFailure (.shape .depth)

variable {depth fuel : Nat} {cs : List Char} {f : Failure}

theorem isReadFailure_readNumber {negative : Bool} (h : readNumber negative cs = .error f) :
    IsReadFailure f := by
  unfold readNumber at h
  grind [IsReadFailure.form, IsReadFailure.number]

theorem isReadFailure_readScalar (h : readScalar cs = .error f) : IsReadFailure f := by
  unfold readScalar at h
  split at h
  · split at h
    · cases h
    · cases h
      exact .form
  · split at h
    · cases h
    · split at h <;> exact isReadFailure_readNumber h

theorem isReadFailure_step (fuel : Nat) :
    (∀ depth cs f, readValue depth fuel cs = .error f → IsReadFailure f) ∧
    (∀ depth read cs f, readItems depth fuel read cs = .error f → IsReadFailure f) ∧
    ∀ depth read cs f, readEntries depth fuel read cs = .error f → IsReadFailure f := by
  induction fuel with
  | zero =>
    refine ⟨fun depth cs f h => ?_, fun depth read cs f h => ?_, fun depth read cs f h => ?_⟩
    · unfold readValue at h
      cases h
      exact .form
    · unfold readItems at h
      cases h
      exact .form
    · unfold readEntries at h
      cases h
      exact .form
  | succ fuel ih =>
    obtain ⟨hvalue, hitems, hentries⟩ := ih
    refine ⟨fun depth cs f h => ?_, fun depth read cs f h => ?_, fun depth read cs f h => ?_⟩
    · unfold readValue at h
      split at h
      · split_ifs at h
        · cases h
          exact .depth
        · split at h
          · cases h
          · exact hitems _ _ _ _ h
      · split_ifs at h
        · cases h
          exact .depth
        · split at h
          · cases h
          · exact hentries _ _ _ _ h
      · exact isReadFailure_readScalar h
    · unfold readItems at h
      split at h
      · next e he =>
        cases h
        exact hvalue _ _ _ he
      · split at h
        · exact hitems _ _ _ _ h
        · cases h
        · cases h
          exact .form
    · unfold readEntries at h
      split at h
      · split at h
        · cases h
          exact .form
        · split at h
          · split at h
            · next e he =>
              cases h
              exact hvalue _ _ _ he
            · dsimp only at h
              split at h
              · exact hentries _ _ _ _ h
              · cases h
              · cases h
                exact .form
          · cases h
            exact .form
      · cases h
        exact .form

theorem isReadFailure_read {s : String} (h : read s = .error f) : IsReadFailure f := by
  unfold read at h
  dsimp only at h
  split at h
  · split_ifs at h
    cases h
    exact .form
  · next e he =>
    cases h
    exact (isReadFailure_step _).1 _ _ _ he

end Json

namespace Web

open PairChat.Action

/-! ### Refusals -/

theorem Body.toValue_eq_error {b : Body} {f : Failure} (h : b.toValue = .error f) :
    Response.isNoDocument f ∨ f = .shape .depth := by
  rcases b with s | v
  · change Body.documentText s >>= Json.read = .error f at h
    rcases hs : Body.documentText s with e | t <;> rw [hs] at h
    · cases h
      unfold Body.documentText at hs
      split at hs
      · cases hs
      · split at hs <;> cases hs
        exact .inl rfl
    · cases Json.isReadFailure_read h with
      | form => exact .inl rfl
      | number => exact .inl rfl
      | depth => exact .inr rfl
  · cases h

/-- The body tells why something is refused, with a code and a text: it is a mapping, or there is no
document in it, and then it is the text itself. -/
inductive Body.Tells (b : Body) : Value → Value → Prop
  | mapping {entries : List (Scalar × Value)} (h : b.toValue = .ok (.map entries)) :
      b.Tells ((Value.get? "errcode" (.map entries)).getD .null)
        ((Value.get? "error" (.map entries)).getD (.text b.toText))
  | text {f : Failure} (h : b.toValue = .error f) (hf : f ≠ .shape .depth) :
      b.Tells .null (.text b.toText)

/-- The result is the one for the code and the text that the body tells, and a failure that nobody
handles if it tells none. -/
structure AnswersRefusal {α : Type} (b : Body) (told : Value → Value → Except Failure α)
    (r : Except Failure α) : Prop where
  told : ∀ code text, b.Tells code text → r = told code text
  untold : (∀ code text, ¬ b.Tells code text) →
    r = .error (.shape .attribute) ∨ r = .error (.shape .depth)

/-- The refusal of a request with a status. -/
def rejection {α : Type} (status : Int) (code text : Value) : Except Failure α :=
  .error (.rejected ⟨status, code, text⟩)

theorem answersRefusal_answer {r : Response} (hr : 400 ≤ r.status) :
    AnswersRefusal r.body (rejection r.status) r.answer := by
  unfold Response.answer
  rw [if_pos hr]
  refine ⟨fun code text ht => ?_, fun hu => ?_⟩
  · cases ht with
    | mapping h =>
      rw [h]
      rfl
    | text h hf =>
      rw [h]
      exact if_pos ((Body.toValue_eq_error h).resolve_right hf)
  · rcases hv : r.body.toValue with f | v
    · by_cases hf : f = .shape .depth
      · subst hf
        exact .inr rfl
      · exact absurd (.text hv hf) (hu _ _)
    · cases v with
      | map entries => exact absurd (.mapping hv) (hu _ _)
      | _ => exact .inl rfl

variable {ν α β : Type} {b : Body} {status : Int} {s s' : Session ν}

theorem fst_outcome_bind_error {x : Action (Session ν) α} {f : α → Action (Session ν) β}
    {e : Failure} (h : (x.outcome s).1 = .error e) : ((x >>= f).outcome s).1 = .error e := by
  rw [outcome_bind_error (Prod.ext h rfl)]

/-- What comes after a refused request is not done. -/
theorem AnswersRefusal.bind {x : Action (Session ν) α} {f : α → Action (Session ν) β}
    (h : AnswersRefusal b (rejection status) (x.outcome s).1) :
    AnswersRefusal b (rejection status) ((x >>= f).outcome s).1 := by
  exact ⟨fun code text ht => fst_outcome_bind_error (h.told code text ht),
    fun hu => (h.untold hu).imp fst_outcome_bind_error fst_outcome_bind_error⟩

theorem AnswersRefusal.bind_ok {x : Action (Session ν) α} {f : α → Action (Session ν) β} {v : α}
    {w : β} (h : AnswersRefusal b (fun _ _ => .ok v) (x.outcome s).1)
    (hf : ∀ t, ((f v).outcome t).1 = .ok w) :
    AnswersRefusal b (fun _ _ => .ok w) ((x >>= f).outcome s).1 := by
  refine ⟨fun code text ht => ?_,
    fun hu => (h.untold hu).imp fst_outcome_bind_error fst_outcome_bind_error⟩
  rw [outcome_bind_ok (Prod.ext (h.told code text ht) rfl)]
  exact hf _

/-- What is refused as not found is missing. -/
theorem AnswersRefusal.orElseMissing {x : Action (Session ν) α} {value : α}
    (h : AnswersRefusal b (rejection 404) (x.outcome s).1) :
    AnswersRefusal b (fun _ _ => .ok value) ((Account.orElseMissing value x).outcome s).1 := by
  have herror : ∀ e, (x.outcome s).1 = .error e →
      ((Account.orElseMissing value x).outcome s).1 =
        if e.isNotFound then .ok value else .error e := by
    intro e he
    unfold Account.orElseMissing
    rw [outcome_recover, show x.outcome s = (.error e, (x.outcome s).2) from Prod.ext he rfl]
  exact ⟨fun code text ht => herror _ (h.told code text ht),
    fun hu => (h.untold hu).imp (herror _) (herror _)⟩

namespace Account

/-- The account asks for something that a scheme is named for, and gets the response. -/
structure Gets (a : Account) (h : Homeserver ν) (s : Session ν) (method : Method)
    (endpoint : Endpoint) (body : Option Value) (query : List (String × Body))
    (response : Response) : Prop where
  isOpen : s.isOpen
  received : ∃ request, a.request method endpoint body query = .ok (request, true) ∧
    (h.respond request s.server).1 = some response

variable {h : Homeserver ν} {a : Account} {method : Method} {endpoint : Endpoint}
  {body : Option Value} {query : List (String × Body)} {response : Response}

theorem Gets.outcome_send (hg : a.Gets h s method endpoint body query response) :
    ((a.send h method endpoint body query).outcome s).1 = response.answer := by
  obtain ⟨request, hr, hanswer⟩ := hg.received
  rw [outcome_send_ok hr hg.isOpen, hanswer]
  rfl

theorem answersRefusal_send (hg : a.Gets h s method endpoint body query response)
    (hr : 400 ≤ response.status) :
    AnswersRefusal response.body (rejection response.status)
      ((a.send h method endpoint body query).outcome s).1 := by
  rw [hg.outcome_send]
  exact answersRefusal_answer hr

section Missing
variable (hr : response.status = 404)
include hr

theorem answersRefusal_userExists {user : String}
    (hg : a.Gets h s .get (.profile user) none [] response) :
    AnswersRefusal response.body (fun _ _ => .ok false) ((a.userExists h user).outcome s).1 := by
  have hsend := answersRefusal_send hg (by omega)
  rw [hr] at hsend
  exact hsend.bind.orElseMissing

theorem answersRefusal_members {room : String}
    (hg : a.Gets h s .get (.members room) none [] response) :
    AnswersRefusal response.body (fun _ _ => .ok none) ((a.members? h room).outcome s).1 := by
  have hsend := answersRefusal_send hg (by omega)
  rw [hr] at hsend
  exact hsend.bind.orElseMissing.bind_ok fun _ => rfl

theorem answersRefusal_document {user type : String}
    (hme : (a.me h).outcome s = (.ok (.text user), s'))
    (hg : a.Gets h s' .get (.document user type) none [] response) :
    AnswersRefusal response.body (fun _ _ => .ok .null) ((a.document h type).outcome s).1 := by
  have hsend := answersRefusal_send hg (by omega)
  rw [hr] at hsend
  refine AnswersRefusal.orElseMissing ?_
  rw [outcome_bind_ok hme]
  exact hsend

theorem answersRefusal_registry {user : String}
    (hme : (a.me h).outcome s = (.ok (.text user), s'))
    (hg : a.Gets h s' .get (.document user registryType) none [] response) :
    AnswersRefusal response.body (fun _ _ => .ok none) ((a.registry? h).outcome s).1 := by
  exact (answersRefusal_document hr hme hg).bind_ok fun _ => rfl

end Missing

/-- **What becomes of a refused request.** It fails with a rejection that has the status of the
response, and what the homeserver does not know is missing, if the body of the response tells why;
else it fails in a way that nobody handles. -/
theorem refusals_exact (h : Homeserver ν) (a : Account) (s : Session ν) {response : Response}
    (hr : 400 ≤ response.status) :
    (∀ method endpoint body query, a.Gets h s method endpoint body query response →
      AnswersRefusal response.body (rejection response.status)
        ((a.send h method endpoint body query).outcome s).1) ∧
    (response.status = 404 →
      (∀ user, a.Gets h s .get (.profile user) none [] response →
        AnswersRefusal response.body (fun _ _ => .ok false)
          ((a.userExists h user).outcome s).1) ∧
      (∀ room, a.Gets h s .get (.members room) none [] response →
        AnswersRefusal response.body (fun _ _ => .ok none) ((a.members? h room).outcome s).1) ∧
      ∀ user s', (a.me h).outcome s = (.ok (.text user), s') →
        a.Gets h s' .get (.document user registryType) none [] response →
        AnswersRefusal response.body (fun _ _ => .ok none) ((a.registry? h).outcome s).1) :=
  ⟨fun _ _ _ _ hg => answersRefusal_send hg hr, fun h404 =>
    ⟨fun _ hg => answersRefusal_userExists h404 hg, fun _ hg => answersRefusal_members h404 hg,
      fun _ _ hme hg => answersRefusal_registry h404 hme hg⟩⟩

/-- A proxy says with a page of its own that nothing is there. -/
theorem refusals_exact_page :
    let a : Account := ⟨"http://localhost", ⟨true, true, [], [], none⟩, .text "token"⟩
    let response : Response := ⟨404, .text "<p>Nothing here</p>"⟩
    let missing (resource : String) : Route := ⟨"GET", resource, some response, none⟩
    let s : Session ServerScript := { server :=
      { account := "@alice:localhost"
        routes := [missing "/profile/%40bob%3Alocalhost", missing "/rooms/%21r%3Alocalhost/members",
          missing "/user/%40alice%3Alocalhost/account_data/m.direct"] } }
    400 ≤ response.status ∧ ((a.userExists scripted "@bob:localhost").outcome s).1 = .ok false ∧
      ((a.members? scripted "!r:localhost").outcome s).1 = .ok none ∧
      ((a.registry? scripted).outcome s).1 = .ok none := by
  intro a response missing s
  have hr : 400 ≤ response.status := by decide
  have ht : response.body.Tells .null (.text "<p>Nothing here</p>") :=
    .text (f := .badJson) (by decide +kernel) (by decide)
  let asked (resource : String) : Request :=
    { method := .get, path := protocolPath ++ resource, resource
      authorization := some "Bearer token" }
  have hprofile : a.Gets scripted s .get (.profile "@bob:localhost") none [] response :=
    ⟨rfl, asked "/profile/%40bob%3Alocalhost", by decide +kernel, by decide +kernel⟩
  have hroom : a.Gets scripted s .get (.members "!r:localhost") none [] response :=
    ⟨rfl, asked "/rooms/%21r%3Alocalhost/members", by decide +kernel, by decide +kernel⟩
  have hme : ((a.me scripted).outcome s).1 = .ok (.text "@alice:localhost") := by decide +kernel
  have hknown : (a.me scripted).outcome s =
      (.ok (.text "@alice:localhost"), ((a.me scripted).outcome s).2) := by
    rw [← hme]
  have hdocument : a.Gets scripted ((a.me scripted).outcome s).2 .get
      (.document "@alice:localhost" registryType) none [] response :=
    ⟨by decide +kernel, asked "/user/%40alice%3Alocalhost/account_data/m.direct",
      by decide +kernel, by decide +kernel⟩
  obtain ⟨huser, hmembers, hregistry⟩ := (refusals_exact scripted a s hr).2 rfl
  exact ⟨hr, (huser _ hprofile).told _ _ ht, (hmembers _ hroom).told _ _ ht,
    (hregistry _ _ hknown hdocument).told _ _ ht⟩

/-- **A refusal may go unnoticed as one.** A list tells nothing, so a user whom the homeserver does
not know is not reported as missing. -/
theorem userExists_untold :
    let a : Account := ⟨"http://localhost", ⟨true, true, [], [], none⟩, .text "token"⟩
    let unknown : Route :=
      ⟨"GET", "/profile/%40bob%3Alocalhost", some ⟨404, .text "[]"⟩, none⟩
    let s : Session ServerScript := { server := { routes := [unknown] } }
    let o := (a.userExists scripted "@bob:localhost").outcome s
    o.2.exchanges.map (·.2) = [some ⟨404, .text "[]"⟩] ∧ o.1 = .error (.shape .attribute) ∧
      Failure.isReported (.shape .attribute) = false := by
  decide +kernel

end Account

end Web

end PairChat
