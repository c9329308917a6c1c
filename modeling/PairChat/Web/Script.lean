import PairChat.Web.Exchange

/-!
# Scripted homeservers

A scripted homeserver answers by the first `Route` that matches; a route may be used up.
Without a route it knows one account, has no rooms, makes and leaves rooms without keeping them, and
keeps the documents that are put.
-/

namespace PairChat.Web

/-- A scripted answer to one method on one resource, for a number of times if there is one. Without
a response the homeserver cannot be reached. -/
structure Route where
  method : String
  resource : String
  response : Option Response
  left : Option Nat := none
deriving DecidableEq, Repr

/-- The state of a scripted homeserver. -/
structure ServerScript where
  account : String := "@alice:example.org"
  routes : List Route := []
  documents : List (String × Body) := []
  roomsMade : Nat := 0
deriving DecidableEq, Repr

namespace Route

/-- Does the route answer the request? -/
def answers (request : Request) (r : Route) : Bool :=
  r.method == request.method.word && r.resource == request.resource && r.left != some 0

/-- The first route that answers the request, and the routes after it was used. -/
def use? (request : Request) : List Route → Option (Route × List Route)
  | [] => none
  | r :: rs =>
    if r.answers request then some (r, { r with left := r.left.map (· - 1) } :: rs)
    else (use? request rs).map fun (used, rs) => (used, r :: rs)

end Route

namespace ServerScript

/-- A response with a document. -/
def reply (status : Int) (entries : List (String × Value)) : Option Response :=
  some ⟨status, .document (.object entries)⟩

/-- The text after the last slash. -/
def lastSegment (s : String) : String :=
  String.ofList (s.toList.reverse.takeWhile (· != '/')).reverse

/-- Does a list of characters occur in another? -/
def occurs (part : List Char) : List Char → Bool
  | [] => part.isEmpty
  | c :: cs => part.isPrefixOf (c :: cs) || occurs part cs

/-- The documents with one of them replaced or added. -/
def putDocument (key : String) (body : Body) : List (String × Body) → List (String × Body)
  | [] => [(key, body)]
  | (k, b) :: ds => if k = key then (k, body) :: ds else (k, b) :: putDocument key body ds

/-- The answer without a route. -/
def usual (request : Request) (s : ServerScript) : Option Response × ServerScript :=
  let resource := request.resource
  let key := lastSegment resource
  if resource = "/account/whoami" then (reply 200 [("user_id", .text s.account)], s)
  else if resource = "/sync" then (reply 200 [], s)
  else if occurs "/account_data/".toList resource.toList && request.method == .put then
    let body := (request.body.map Body.document).getD (.text "")
    (reply 200 [], { s with documents := putDocument key body s.documents })
  else if occurs "/account_data/".toList resource.toList && request.method == .get then
    match s.documents.lookup key with
    | some body => (some ⟨200, body⟩, s)
    | none => (reply 404 [("errcode", .text "M_NOT_FOUND"), ("error", .text "Not found")], s)
  else if resource = "/createRoom" then
    let n := s.roomsMade + 1
    let room := "!new" ++ toString n ++ ":example.org"
    (reply 200 [("room_id", .text room)], { s with roomsMade := n })
  else if "/join/".toList.isPrefixOf resource.toList
      || "/leave".toList.isSuffixOf resource.toList then
    (reply 200 [], s)
  else
    (reply 404 [("errcode", .text "M_UNRECOGNIZED"), ("error", .text "Unrecognized request")], s)

/-- The answer to a request. -/
def respond (request : Request) (s : ServerScript) : Option Response × ServerScript :=
  match Route.use? request s.routes with
  | some (route, routes) => (route.response, { s with routes })
  | none => usual request s

end ServerScript

/-- The homeserver that follows a script. -/
def scripted : Homeserver ServerScript := ⟨ServerScript.respond⟩

end PairChat.Web
