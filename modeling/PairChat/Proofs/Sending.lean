import PairChat.Proofs.Outcome
import PairChat.Web.Account

/-!
# Sending: what an account asks its homeserver

A request is sent if its endpoint has an address and its body a strict form (`request_eq_ok_iff`).
What comes of it is given by the homeserver alone: `received` is the answer, and
`Session.exchanged` is the session afterwards (`outcome_send`).  `Session.sent` are the requests so
far.
-/

namespace PairChat.Web

open PairChat.Action

variable {ν : Type}

namespace Session

/-- The requests that were sent. -/
def sent (s : Session ν) : List Request := s.exchanges.map (·.1)

/-- The session after a request was sent. -/
def exchanged (s : Session ν) (h : Homeserver ν) (request : Request) : Session ν :=
  { s with
    server := (h.respond request s.server).2
    exchanges := s.exchanges ++ [(request, (h.respond request s.server).1)] }

variable {s : Session ν} {h : Homeserver ν} {request : Request}

@[simp] theorem server_exchanged :
    (s.exchanged h request).server = (h.respond request s.server).2 := rfl

@[simp] theorem sent_exchanged : (s.exchanged h request).sent = s.sent ++ [request] := by
  simp [sent, exchanged]

end Session

/-- The answer that is taken from what came back. -/
def received (hasScheme : Bool) : Option Response → Except Failure Value
  | none => .error .unreachable
  | some response => if hasScheme then response.answer else .error (.shape .value)

namespace Account

variable {h : Homeserver ν} {a : Account} {s : Session ν} {method : Method} {endpoint : Endpoint}
  {body : Option Value} {query : List (String × Body)} {r : Request} {hasScheme : Bool}

/-- The request for what lies at an address. -/
def requestAt (a : Account) (method : Method) (body : Option Value) (query : List (String × Body))
    (address : Address) : Request where
  method
  path := String.ofList address.path
  resource := String.ofList ((behindProtocol address.path).getD address.path)
  query :=
    if query.isEmpty then
      (Location.fields (address.query.getD [])).map fun (name, value) => (name, .text value)
    else query
  body
  authorization := a.authorization

theorem request_eq_ok_iff : a.request method endpoint body query = .ok (r, hasScheme) ↔
    endpoint.isWhole ∧ body.bind Json.unwritten? = none ∧ ∃ address,
      a.location.under (protocolPath ++ endpoint.path).toList = .ok address ∧
        r = a.requestAt method body query address ∧ hasScheme = address.hasScheme := by
  unfold request
  rcases hw : endpoint.isWhole with _ | _
  · simp [bind, Except.bind]
  rcases hu : a.location.under (protocolPath ++ endpoint.path).toList with e | address
  · simp [bind, Except.bind]
  rcases hb : body.bind Json.unwritten? with _ | f
  · constructor
    · rintro ⟨⟩
      exact ⟨rfl, rfl, address, rfl, rfl, rfl⟩
    · rintro ⟨-, -, _, ⟨⟩, rfl, rfl⟩
      rfl
  · simp [bind, Except.bind]

/-- **What comes of sending.** -/
theorem outcome_send : (a.send h method endpoint body query).outcome s =
    match a.request method endpoint body query with
    | .error e => (.error e, s)
    | .ok (request, hasScheme) =>
      if s.isOpen then
        (received hasScheme (h.respond request s.server).1, s.exchanged h request)
      else (.error .connectionClosed, s) := by
  unfold send
  rw [outcome_bind, outcome_getState]
  dsimp only
  rw [outcome_bind, outcome_lift]
  rcases a.request method endpoint body query with e | ⟨request, hasScheme⟩
  · rfl
  · rcases ho : s.isOpen with _ | _
    · rfl
    · rcases hr : h.respond request s.server with ⟨_ | response, server⟩ <;>
        simp [hr, received, Session.exchanged, outcome_bind]

theorem outcome_send_ok (hr : a.request method endpoint body query = .ok (r, hasScheme))
    (ho : s.isOpen) : (a.send h method endpoint body query).outcome s =
      (received hasScheme (h.respond r s.server).1, s.exchanged h r) := by
  rw [outcome_send, hr]
  exact if_pos ho

end Account

end PairChat.Web
