import PairChat.CommandLine.Arguments
import PairChat.Lifecycle

/-!
# Commands

A `Command` is what a user asks for: an operation on chats, something about a local store, or
something about the sources.  `Command.parse?` reads the words of a command line.
-/

namespace PairChat.CommandLine

/-- Where an operation on chats takes place, and how much is logged. -/
structure Scope where
  source : Option String := none
  user : Option String := none
  verbose : Bool := false
deriving DecidableEq, Repr

/-- What a user asks for. -/
inductive Command where
  | chat (op : Operation) (scope : Scope)
  | initialise (path homeServer : Option String) (ignore : Bool)
  | register (handle : String) (name path : Option String) (verbose : Bool)
  | users (path : Option String)
  | sources
  | addSource (name : String) (remote directory token user : Option String) (isDefault : Bool)
  | removeSource (name : String)
  | defaultSource (name : Option String)
deriving DecidableEq, Repr

namespace Command

/-! ### Parameters -/

/-- A parameter that is given by position, and has to be. -/
def required (name : String) : Parameter := { name, isPositional := true, isRequired := true }

/-- A parameter with a value. -/
def valued (name : String) : Parameter := { name }

/-- A flag. -/
def flag (name : String) : Parameter := { name, isFlag := true }

/-- The parameters of all operations on chats. -/
def scopeParameters : List Parameter := [valued "source", valued "as-user", flag "verbose"]

/-- Where an operation takes place. -/
def scopeOf (bs : Bindings) : Scope := ⟨bs.value? "source", bs.value? "as-user", bs.flag "verbose"⟩

/-! ### The commands -/

/-- A command on chats with one more parameter. -/
def chatWith (name parameter : String) (op : String → Operation) :
    List String × List Parameter × (Bindings → Command) :=
  ([name], required parameter :: scopeParameters,
    fun bs => .chat (op (bs.value parameter)) (scopeOf bs))

/-- A command on chats. -/
def chatAlone (name : String) (op : Operation) :
    List String × List Parameter × (Bindings → Command) :=
  ([name], scopeParameters, fun bs => .chat op (scopeOf bs))

/-- All commands: the words that name it, its parameters, and what the parameters make of it. -/
def all : List (List String × List Parameter × (Bindings → Command)) := [
  chatWith "create" "handle" .create,
  chatAlone "invitations" .invitations,
  chatWith "accept" "room-id" .accept,
  chatWith "decline" "room-id" .decline,
  chatAlone "list" .joined,
  chatWith "block" "handle" .block,
  chatWith "unblock" "handle" .unblock,
  chatAlone "blocked" .blocked,
  (["local", "init"], [valued "path", valued "home-server", flag "no-gitignore"],
    fun bs => .initialise (bs.value? "path") (bs.value? "home-server") (!bs.flag "no-gitignore")),
  (["local", "register"], [required "handle", valued "name", valued "path", flag "verbose"],
    fun bs => .register (bs.value "handle") (bs.value? "name") (bs.value? "path")
      (bs.flag "verbose")),
  (["local", "users"], [valued "path"], fun bs => .users (bs.value? "path")),
  (["source", "list"], [], fun _ => .sources),
  (["source", "add"],
    [required "name", valued "remote", valued "local", valued "access-token", valued "user-id",
      flag "set-default"],
    fun bs => .addSource (bs.value "name") (bs.value? "remote") (bs.value? "local")
      (bs.value? "access-token") (bs.value? "user-id") (bs.flag "set-default")),
  (["source", "remove"], [required "name"], fun bs => .removeSource (bs.value "name")),
  (["source", "default"], [{ name := "name", isPositional := true }],
    fun bs => .defaultSource (bs.value? "name"))]

/-- **The command that words write**, if they write one. -/
def parse? (words : List String) : Option Command := do
  let (name, ps, make) ← all.find? fun c => c.1.isPrefixOf words
  return make (← Parameter.bind? ps (words.drop name.length))

end Command

end PairChat.CommandLine
