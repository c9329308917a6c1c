import PairChat.Environment
import PairChat.Failure
import PairChat.Files.Path
import PairChat.Web.Location

/-!
# Options: which provider is wanted, and as whom

`Options` are what a caller writes down.  `Options.withEnvironment` completes them: variables name a
provider only if the caller names none, and an account or a token wherever the caller left it out.
`Options.fault?` says what does not go together, and `Options.target` what the options lead to.
`Settings.ofOptions` does the three in turn.

The texts among the options may come from a document, so they are kept as values; `null` is an
option that was not given.
-/

namespace PairChat

open Files (Path)

/-- What a caller writes down. -/
structure Options where
  path : Value := .null
  /-- Look for a local store. -/
  findLocal : Bool := false
  inMemory : Bool := false
  user : Value := .null
  url : Value := .null
  token : Value := .null
  homeServer : Value := .null
  /-- The seconds to wait after a change, a finite number. -/
  settleDelay : Option Decimal := none
  createIfMissing : Bool := false
deriving DecidableEq, Repr

/-- What options lead to. -/
inductive Target where
  | memory
  | directory (path : Path)
  | nearestDirectory
  | homeserver (url : String)
  | discovered
deriving DecidableEq, Repr

namespace Target

/-- The kind of provider, if it is settled. -/
def kind? : Target → Option String
  | .memory => some "in_memory"
  | .directory _ | .nearestDirectory => some "local"
  | .homeserver _ => some "remote"
  | .discovered => none

/-- The directory, if one is named. -/
def path? : Target → Option Path
  | .directory path => some path
  | _ => none

/-- The location of the homeserver, if one is named. -/
def url? : Target → Option String
  | .homeserver url => some url
  | _ => none

/-- Is it a homeserver by name? -/
def isHomeserver (t : Target) : Bool := t.url?.isSome

end Target

namespace Options

variable (o : Options)

/-- Was the option given? -/
def isGiven (v : Value) : Bool := v != .null

/-- Is a local provider named? -/
def namesLocal : Bool := isGiven o.path || o.findLocal || o.inMemory

/-- Is a provider named? -/
def isExplicit : Bool := o.namesLocal || isGiven o.url

/-- An option, or the variable in its place if it is missing or empty. -/
def orVariable (env : Environment) (name : String) (v : Value) : Value :=
  if v.isEmpty then .ofText? (env.value? name) else v

/-- A variable in the place of an option, unless the variable is missing or empty. -/
def overriddenBy (env : Environment) (name : String) (v : Value) : Value :=
  ((env.nonempty? name).map Value.text).getD v

/-- The options completed by the environment. -/
def withEnvironment (env : Environment) : Options :=
  let o := { o with homeServer := orVariable env Environment.homeServer o.homeServer }
  let token := orVariable env Environment.accessToken o.token
  let user := orVariable env Environment.userId o.user
  if o.isExplicit then
    if isGiven o.url then { o with token } else { o with user }
  else { o with
    path := overriddenBy env Environment.storePath o.path
    url := overriddenBy env Environment.serverUrl o.url
    token
    user }

/-- What does not go together. -/
def fault? : Option OptionsFault :=
  if o.namesLocal && isGiven o.url then some .mixed
  else if o.inMemory && (isGiven o.path || o.findLocal) then some .memoryWithPlace
  else if o.createIfMissing && !o.url.isEmpty then some .creationElsewhere
  else if isGiven o.url && !o.user.isEmpty then some .accountElsewhere
  else if o.settleDelay.any Decimal.isNegative then some .negativeDelay
  else none

/-- A path given as an option. -/
def pathOf : Value → Except Failure Path
  | .text s => .ok (Path.ofText s)
  | _ => .error (.shape .type)

/-- The location of a homeserver given as an option. -/
def urlOf : Value → Except Failure String
  | .text s => .ok (Web.trimSlashes s)
  | .scalar (.bytes _) => .error (.shape .type)
  | _ => .error (.shape .attribute)

/-- What the options lead to, seen from a directory. -/
def target (cwd : Path) : Except Failure Target :=
  if o.inMemory then .ok .memory
  else if isGiven o.path then (pathOf o.path >>= cwd.resolved).map .directory
  else if o.findLocal then .ok .nearestDirectory
  else if isGiven o.url then (urlOf o.url).map .homeserver
  else .ok .discovered

/-! ### Usual options -/

/-- Options for a local store: the one at the path, or the nearest one. -/
def forLocal (path user : Value) (createIfMissing : Bool) : Options :=
  if path.isEmpty then { findLocal := true, user, createIfMissing }
  else { path, user, createIfMissing }

/-- Options for a homeserver. -/
def forHomeserver (url token : Value) : Options := { url, token }

/-- Options for a store in memory. -/
def forMemory (user : Value) : Options := { inMemory := true, user }

end Options

/-! ### Settings -/

/-- Options that were completed and go together, with what they lead to. -/
structure Settings where
  options : Options
  target : Target
deriving DecidableEq, Repr

namespace Settings

/-- **The settings of given options** in an environment and a directory. -/
def ofOptions (env : Environment) (cwd : Path) (given : Options) : Except Failure Settings := do
  let options := given.withEnvironment env
  match options.fault? with
  | some fault => .error (.options fault)
  | none => return ⟨options, ← options.target cwd⟩

variable (s : Settings)

/-- The seconds to wait after a change on a homeserver. -/
def usualDelay : Decimal := .ofNat 3

/-- The seconds to wait after a change. -/
def delay : Decimal :=
  match s.options.settleDelay with
  | some d => d
  | none => if s.target.isHomeserver then usualDelay else .zero

/-- The settings as a document, with no secret in it. -/
def toValue : Value := .object [
  ("provider_type", .ofText? s.target.kind?),
  ("path", .ofText? (s.target.path?.map Path.toText)),
  ("url", .ofText? s.target.url?),
  ("local", .bool s.options.findLocal),
  ("in_memory", .bool s.options.inMemory),
  ("user_id", s.options.user),
  ("home_server", s.options.homeServer),
  ("settle_delay", .real (.finite s.delay)),
  ("create_if_missing", .bool s.options.createIfMissing),
  ("has_access_token", .bool (Options.isGiven s.options.token))]

end Settings

end PairChat
