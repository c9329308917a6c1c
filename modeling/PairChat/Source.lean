import PairChat.Web.Location
import PairChat.Yaml.File

/-!
# Sources: named places where chats are

A `Source` has a name and says where the account is: on a homeserver, or in a local store.  The
`Sources` of a user are kept in a document, in order, with the name of the default one.  Names are
unique, since a source that is added replaces one of the same name.

What a document holds is taken as it is, so every part of a source is a value.
-/

namespace PairChat

open PairChat.Action
open Files (Path)

/-- A named place where chats are. -/
structure Source where
  name : Value
  type : Value
  url : Value := .null
  token : Value := .null
  path : Value := .null
  user : Value := .null
deriving DecidableEq, Repr

/-- The sources of a user, and the name of the default one. -/
structure Sources where
  all : List Source := []
  default : Value := .null
deriving DecidableEq, Repr

namespace Source

/-- The type of the sources on a homeserver. All others are local. -/
def remoteType : Value := .text "remote"

/-- The type of a source in a local store. -/
def localType : Value := .text "local"

/-- Is the source on a homeserver? -/
def isRemote (s : Source) : Bool := s.type.same remoteType

/-- An entry of a document, unless it has no value. -/
def given (key : String) (v : Value) : List (String × Value) := if v.isEmpty then [] else [(key, v)]

/-- A source as a document. -/
def toValue (s : Source) : Value :=
  .object <| [("name", s.name), ("type", s.type)] ++
    if s.isRemote then ("url", s.url) :: given "access_token" s.token
    else ("path", s.path) :: given "user_id" s.user

/-- The source that a document is. It has to have a name and a type. -/
def ofValue (v : Value) : Except Failure Source :=
  match v.core with
  | .map _ =>
    let entry (key : String) : Value := (v.get? key).getD .null
    match v.get? "name", v.get? "type" with
    | some name, some type => .ok {
        name, type, url := entry "url", token := entry "access_token", path := entry "path"
        user := entry "user_id" }
    | _, _ => .error (.shape .key)
  | _ => .error (.shape .type)

end Source

namespace Sources

variable (ss : Sources)

/-- The first source with a name. -/
def find? (name : Value) : Option Source := ss.all.find? fun s => s.name.same name

/-- The sources with one more, in the place of those of its name at the end. -/
def add (s : Source) : Sources :=
  { ss with all := (ss.all.filter fun t => !t.name.same s.name) ++ [s] }

/-- The sources without those of a name, which is no default any more, and whether there were
any. -/
def remove (name : Value) : Sources × Bool :=
  let all := ss.all.filter fun s => !s.name.same name
  ({ all, default := if ss.default.same name then .null else ss.default },
    all.length < ss.all.length)

/-- The default source, if one is set and exists. -/
def default? : Option Source := if ss.default.isEmpty then none else ss.find? ss.default

/-! ### The document -/

/-- The sources that a value stands for. The parts of a text and the keys of a mapping are none. -/
def allOf (v : Value) : Except Failure (List Source) :=
  match v.core with
  | .list items => items.mapM Source.ofValue
  | .text s => if s.isEmpty then .ok [] else .error (.shape .type)
  | .scalar (.bytes bs) => if bs.isEmpty then .ok [] else .error (.shape .type)
  | .map es => if es.isEmpty then .ok [] else .error (.shape .type)
  | .set ms => if ms.isEmpty then .ok [] else .error (.shape .type)
  | _ => .error (.shape .type)

/-- The sources that a document holds; a document without content holds none. -/
def ofValue (v : Value) : Except Failure Sources :=
  match if v.isEmpty then .map [] else v.core with
  | .map es => do
    let v : Value := .map es
    return ⟨← allOf ((v.get? "sources").getD (.list [])), (v.get? "default_source").getD .null⟩
  | _ => .error (.shape .attribute)

/-- The document of the sources; what is empty has no entry. -/
def toEntries : List (Scalar × Value) :=
  (if ss.all.isEmpty then [] else [(.text "sources", .list (ss.all.map Source.toValue))])
    ++ (if ss.default.isEmpty then [] else [(.text "default_source", ss.default)])

/-! ### The file -/

variable {ν : Type}

/-- The directory of the configuration of the chats on a host. -/
def directoryIn (h : Host ν) : Path :=
  let home := (h.environment.value? Environment.home).getD h.home
  let base :=
    (h.environment.value? Environment.configHome).getD (Web.trimSlashes home ++ "/.config")
  (Path.ofText base).child "directchats"

/-- The directory of the configuration. -/
def directory : Action (Host ν) Path := Host.ask directoryIn

/-- The file that the sources are kept in. -/
def file : Action (Host ν) Path := return (← directory).child "config.yaml"

/-- Are any sources kept? -/
def exist : Action (Host ν) Bool := do Host.exists? (← file)

/-- The sources that are kept. -/
def load : Action (Host ν) Sources := do
  let p ← file
  if ← Host.exists? p then
    lift (ofValue (← Yaml.load p))
  else return {}

/-- Keep the sources. -/
def save : Action (Host ν) Unit := do
  Host.makePath (← directory)
  Yaml.save (← file) ss.toEntries

end Sources

end PairChat
