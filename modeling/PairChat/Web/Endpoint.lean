import PairChat.Web.Percent

/-!
# Endpoints: what a homeserver is asked for

An `Endpoint` is a kind of request with the identifiers in it.  Each identifier is one segment of
the path, percent-encoded.
-/

namespace PairChat.Web

/-- A kind of request, with its identifiers. -/
inductive Endpoint where
  | whoami
  | profile (user : String)
  | createRoom
  | join (room : String)
  | leave (room : String)
  | members (room : String)
  | sync
  | document (user type : String)
deriving DecidableEq, Repr

/-- The path that all requests of the protocol start with. -/
def protocolPath : String := "/_matrix/client/v3"

namespace Endpoint

/-- The path of an endpoint. -/
def path : Endpoint → String
  | .whoami => "/account/whoami"
  | .profile user => "/profile/" ++ Percent.encode user
  | .createRoom => "/createRoom"
  | .join room => "/join/" ++ Percent.encode room
  | .leave room => "/rooms/" ++ Percent.encode room ++ "/leave"
  | .members room => "/rooms/" ++ Percent.encode room ++ "/members"
  | .sync => "/sync"
  | .document user type => "/user/" ++ Percent.encode user ++ "/account_data/" ++ type

/-- The identifiers in an endpoint. -/
def ids : Endpoint → List String
  | .whoami | .createRoom | .sync => []
  | .profile id | .join id | .leave id | .members id | .document id _ => [id]

/-- Can all identifiers be encoded? -/
def isWhole (e : Endpoint) : Bool := e.ids.all fun id => Text.isWhole id.toList

end Endpoint

end PairChat.Web
