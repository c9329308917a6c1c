import PairChat.Failure
import PairChat.Json.Reader
import PairChat.Json.Writer
import PairChat.Text.Encoding

/-!
# Exchanges: requests and what comes back

A `Request` goes to a homeserver, and a `Response` comes back unless the homeserver cannot be
reached.  A body is a text; one that was written by this library is kept as the document that it
writes.

`Homeserver ν` is anything that answers requests, on states `ν`.
-/

namespace PairChat.Web

/-- What a request does to a resource. -/
inductive Method where
  | get
  | post
  | put
deriving DecidableEq, Repr

/-- The word for a method on the wire. -/
def Method.word : Method → String
  | .get => "GET"
  | .post => "POST"
  | .put => "PUT"

/-- What is sent along. -/
inductive Body where
  | text (s : String)
  | document (v : Value)
deriving DecidableEq, Repr

namespace Body

/-- Is nothing sent along? -/
def isEmpty : Body → Bool
  | .text s => s.isEmpty
  | .document _ => false

/-- The text of a body. -/
def toText : Body → String
  | .text s => s
  | .document v => Json.write v

/-- A text without the mark that may stand before it. -/
def dropMark (s : String) : String :=
  match s.toList with
  | c :: cs => if c = Char.ofNat 0xFEFF then String.ofList cs else s
  | [] => s

/-- The text of a document, which may come in units of two or four bytes. -/
def documentText (s : String) : Except Failure String :=
  match Text.widthOf (Text.utf8 (s.toList.take 4)) with
  | none => .ok (dropMark s)
  | some width => match Text.ofUnits? width (Text.utf8 s.toList) with
    | some cs => .ok (String.ofList cs)
    | none => .error .notDecodable

/-- The document that a body holds. -/
def toValue : Body → Except Failure Value
  | .text s => documentText s >>= Json.read
  | .document v => .ok v

end Body

/-- A request. The resource is the path behind that of the protocol. What is sent along in the
location of the homeserver stands in the query. -/
structure Request where
  method : Method
  path : String
  resource : String
  query : List (String × Body) := []
  body : Option Value := none
  authorization : Option String := none
deriving DecidableEq, Repr

/-- A response. -/
structure Response where
  status : Int
  body : Body
deriving DecidableEq, Repr

namespace Response

/-- Does the failure say that there is no document, so that its text has to do? -/
def isNoDocument : Failure → Bool
  | .badJson | .notDecodable | .shape .value => true
  | _ => false

/-- The answer that a response gives: the document of its body, `null` if it has none. Every status
from 400 on is a rejection, with the code and the text that the body gives. -/
def answer (r : Response) : Except Failure Value :=
  if 400 ≤ r.status then
    match r.body.toValue with
    | .error f =>
      if isNoDocument f then .error (.rejected ⟨r.status, .null, .text r.body.toText⟩) else .error f
    | .ok (.map entries) =>
      let body : Value := .map entries
      .error (.rejected ⟨r.status, (body.get? "errcode").getD .null,
        (body.get? "error").getD (.text r.body.toText)⟩)
    | .ok _ => .error (.shape .attribute)
  else if r.status = 204 || r.body.isEmpty then .ok .null
  else r.body.toValue

end Response

/-- Something that answers requests, or cannot be reached. -/
structure Homeserver (ν : Type) where
  respond : Request → ν → Option Response × ν

end PairChat.Web
