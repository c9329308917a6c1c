import PairChat.Client.Opening
import PairChat.CommandLine.Command

/-!
# Reports: what a command prints

A `Report` is the status that a command ends with and what it prints, on the output and on the
output for errors. `Command.run` carries out a command; failures that a user can do something about
are reported, and all others are failures of the run.  Nothing is done after the report is made, and
both outputs are assumed to take whatever text is printed, so printing adds no failure.

Answers are printed as documents with an indentation of two.
-/

namespace PairChat.CommandLine

open PairChat.Action
open Files (Path)

/-- What a command ends with and prints. -/
structure Report where
  status : Nat := 0
  output : String := ""
  errors : String := ""
deriving DecidableEq, Repr

namespace Report

/-- Texts on lines of their own. -/
def lines (ls : List String) : String := String.join (ls.map (· ++ "\n"))

/-- A report of some lines. -/
def ofLines (ls : List String) : Report := { output := lines ls }

/-- A report of a document. -/
def ofValue (v : Value) : Report := ofLines [Json.write v]

/-- A report of what went wrong. -/
def failed (message : String) : Report := { status := 1, errors := lines ["Error: " ++ message] }

end Report

namespace Command

variable {ν : Type}

/-! ### Logging -/

/-- The words for how severe a message is. -/
def severities : List String :=
  ["CRITICAL", "FATAL", "ERROR", "WARN", "WARNING", "INFO", "DEBUG", "NOTSET"]

/-- The capital of a character, if it is an ASCII letter. Two other letters have one too. -/
def capital (c : Char) : Char :=
  if c.toNat = 0x131 then 'I' else if c.toNat = 0x17F then 'S' else c.toUpper

/-- Logging can be set up if the severity that the environment asks for exists. -/
def setUpLogging (verbose : Bool) : Action (Host ν) Unit := do
  let level := (← Host.setting? Environment.logLevel).getD "WARNING"
  let word := String.ofList (level.toList.map capital)
  if verbose || severities.contains word then return () else throw (.shape .value)

/-! ### Documents -/

/-- A contact as a document. -/
def contactValue (c : Contact) : Value :=
  .object [("handle_id", .text c.handle), ("name", .text c.name)]

/-- What an operation on chats answers, as a document. -/
def answerValue : Operation → Answer → Value
  | .accept room, _ => .object [("accepted", .text room)]
  | .decline room, _ => .object [("declined", .text room)]
  | .block handle, _ => .object [("blocked", .text handle)]
  | .unblock handle, _ => .object [("unblocked", .text handle)]
  | _, .chat id => .object [("chat_id", id)]
  | _, .invitations all => .list (all.map fun i =>
      .object [("chat_id", .text i.chatId), ("inviter_handle", contactValue i.inviter)])
  | _, .chats all => .list (all.map fun c =>
      .object [("id", .text c.id), ("other_handle", contactValue c.other)])
  | _, .accounts all => .list (all.map .scalar)
  | _, .done => .null

/-- A user as a document. -/
def userValue (timeText : Nat → String) (u : Store.UserRow) : Value :=
  .object [("user_id", .ofText? u.id), ("display_name", .ofText? u.displayName),
    ("created_at", .text (timeText u.createdAt))]

/-! ### Clients -/

/-- A report instead of the failures that a user can do something about. -/
def reporting (action : Action (Host ν) Report) : Action (Host ν) Report :=
  recover action fun e =>
    match e.isReported, e.message with
    | true, some message => .ok (.failed message)
    | _, _ => .error e

/-- Do something with a client. What it did not commit is lost afterwards. -/
def withClient {α : Type} (client : Client) (action : Action (Visit ν) α) : Action (Host ν) α :=
  ofOutcome fun host =>
    let (result, v) := action.outcome ⟨host, client⟩
    (result, v.host)

/-- The client for a scope, or the report that there is none. -/
def clientFor (scope : Scope) : Action (Host ν) (Except Report Client) := do
  let user := Value.ofText? scope.user
  match scope.source with
  | none => return .ok (← Client.ofOptions { user })
  | some name =>
    match (← Sources.load).find? (.text name) with
    | none => return .error (.failed ("Source '" ++ name ++ "' not found."))
    | some s =>
      if scope.user.isSome && s.isRemote then
        return .error (.failed "--as-user only applies to local sources.")
      else return .ok (← Client.ofSource s user)

/-- An operation on chats. -/
def runChat (h : Web.Homeserver ν) (op : Operation) (scope : Scope) : Action (Host ν) Report := do
  setUpLogging scope.verbose
  reporting do
    match ← clientFor scope with
    | .error report => return report
    | .ok client => return .ofValue (answerValue op (← withClient client (Client.perform h op)))

/-! ### Local stores -/

/-- A path that was given, unless it is empty. -/
def givenPath (path : Option String) : Option Path :=
  (path.filter fun p => !p.isEmpty).map Path.ofText

/-- Make a local store where there is nothing. -/
def runInitialise (path homeServer : Option String) (ignore : Bool) : Action (Host ν) Report := do
  let place ← match givenPath path with
    | some p => pure p
    | none => Discovery.newDirectory none
  if ← Host.exists? place then return .failed (place.toText ++ " already exists.")
  let client ← Client.create (some place) (.ofText? homeServer) ignore
  let server := (homeServer.filter fun s => !s.isEmpty).getD Store.defaultHomeServer
  return .ofValue (.object [("path", .text client.location), ("home_server", .text server)])

/-- The client on a local store, as nobody. -/
def localClient (path : Option String) : Action (Host ν) Client :=
  Client.ofOptions (Options.forLocal (.ofText? path) .null false)

/-- Register an account on a local store. -/
def runRegister (handle : String) (name path : Option String) (verbose : Bool) :
    Action (Host ν) Report := do
  setUpLogging verbose
  reporting do
    let user ← withClient (← localClient path) (Client.register handle name)
    let name := (name.filter fun s => !s.isEmpty).getD handle
    return .ofValue (.object [("user_id", .text user), ("name", .text name)])

/-- The accounts on a local store. -/
def runUsers (timeText : Nat → String) (path : Option String) : Action (Host ν) Report :=
  reporting do
    let users ← withClient (← localClient path) Client.users
    return .ofValue (.list (users.map (userValue timeText)))

/-! ### Sources -/

/-- What is said if there are no sources. -/
def noSources : List String := [
  "No sources configured.",
  "",
  "Add a remote source:",
  "  directchats source add myserver --remote https://matrix.example.org --access-token syt_...",
  "",
  "Add a local source:",
  "  directchats source add local-dev --local /path/to/.directchats --user-id @alice:localhost"]

/-- Where a source is. -/
def placeOf (s : Source) : Value := if s.isRemote then s.url else s.path

/-- The line for a source. -/
def sourceLine (ss : Sources) (s : Source) : Except Failure String := do
  return "  " ++ (← s.name.spelled) ++ ": " ++ (if s.isRemote then "remote" else "local") ++ " @ "
    ++ (← (placeOf s).spelled) ++ (if s.name.same ss.default then " (default)" else "")

/-- The sources. -/
def runSources : Action (Host ν) Report := do
  let ss ← Sources.load
  if ss.all.isEmpty then return .ofLines noSources
  return .ofLines ("Configured sources:" :: (← lift (ss.all.mapM (sourceLine ss))))

/-- Is something given, and not empty? -/
def isNamed (s : Option String) : Bool := s.any fun s => !s.isEmpty

/-- The source that is to be added, and what is said about it. -/
def newSource (name : String) (remote directory token user : Option String) :
    Action (Host ν) (Source × List String) := do
  if isNamed remote then
    return ({ name := .text name, type := Source.remoteType, url := .ofText? remote,
              token := .ofText? token }, [])
  else
    let given := directory.getD ""
    let p := Path.ofText given
    let warning := if ← Host.exists? p then [] else ["Warning: Path does not exist yet: " ++ given]
    let whole ← Host.ask fun h => h.directory.join p
    return ({ name := .text name, type := Source.localType, path := .text whole.toText,
              user := .ofText? user }, warning)

/-- Add a source. -/
def runAddSource (name : String) (remote directory token user : Option String) (isDefault : Bool) :
    Action (Host ν) Report := do
  if isNamed remote && isNamed directory then
    return .failed "Specify either --remote or --local, not both."
  if !isNamed remote && !isNamed directory then
    return .failed "Must specify --remote <url> or --local <path>."
  let ss ← Sources.load
  let (source, warning) ← newSource name remote directory token user
  let ss := ss.add source
  (if isDefault then { ss with default := .text name } else ss).save
  let report : Report := .ofLines (("Source '" ++ name ++ "' added.")
    :: if isDefault then ["Set as default source."] else [])
  return { report with errors := Report.lines warning }

/-- Remove a source. -/
def runRemoveSource (name : String) : Action (Host ν) Report := do
  match (← Sources.load).remove (.text name) with
  | (_, false) => return .failed ("Source '" ++ name ++ "' not found.")
  | (ss, true) =>
    ss.save
    return .ofLines ["Source '" ++ name ++ "' removed."]

/-- What is said about the default source. -/
def defaultLines (ss : Sources) : Except Failure (List String) :=
  if ss.default.isEmpty then
    .ok ["No default source set.", "Set one with: directchats source default <name>"]
  else do
    let place ← match ss.default? with
      | some s => pure ((← s.type.spelled) ++ " @ " ++ (← (placeOf s).spelled))
      | none => pure "not found in sources"
    return ["Default source: " ++ (← ss.default.spelled) ++ " (" ++ place ++ ")"]

/-- Show or set the default source. -/
def runDefaultSource (name : Option String) : Action (Host ν) Report := do
  let ss ← Sources.load
  match name with
  | none => return .ofLines (← lift (defaultLines ss))
  | some name =>
    if (ss.find? (.text name)).isNone then
      let errors := ["Error: Source '" ++ name ++ "' not found.",
        "Add it first with: directchats source add"]
      return { status := 1, errors := Report.lines errors }
    Sources.save { ss with default := .text name }
    return .ofLines ["Default source set to '" ++ name ++ "'."]

/-! ### All commands -/

/-- **Carry out a command.** -/
def run (h : Web.Homeserver ν) (timeText : Nat → String) : Command → Action (Host ν) Report
  | .chat op scope => runChat h op scope
  | .initialise path homeServer ignore => runInitialise path homeServer ignore
  | .register handle name path verbose => runRegister handle name path verbose
  | .users path => runUsers timeText path
  | .sources => runSources
  | .addSource name remote directory token user isDefault =>
    runAddSource name remote directory token user isDefault
  | .removeSource name => runRemoveSource name
  | .defaultSource name => runDefaultSource name

end Command

end PairChat.CommandLine
