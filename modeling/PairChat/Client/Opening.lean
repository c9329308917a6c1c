import PairChat.Client
import PairChat.Discovery
import PairChat.Store.Directory

/-!
# Opening clients

A client is opened as its settings say; what they leave open is discovered.  `Client.create` makes a
local store and opens it, and `Client.ofSource` opens the client that a source stands for.
-/

namespace PairChat.Client

open PairChat.Action
open Files (Path)

variable {ν : Type}

/-- The first value, or the second if the first is empty. -/
def orElse (v w : Value) : Value := if v.isEmpty then w else v

/-- A client on a store in a directory. -/
def ofOpened (settings : Settings) (path : Path) (user : Value) (s : Store.Directory.Opened) :
    Client where
  settings
  backend := .store { user, homeServer := s.homeServer } (.directory path s.file) none

/-- Open a local store that has to exist. -/
def openLocal (settings : Settings) (path : Path) (user : Value) : Action (Host ν) Client := do
  return ofOpened settings path user (← Store.Directory.openOrMake path false .null)

/-- The settings of a client on a homeserver that was discovered. -/
def settledSettings (s : Settings) : Settings :=
  { s with options := { s.options with
      settleDelay := some (s.options.settleDelay.getD Settings.usualDelay) } }

/-- Open what was discovered. -/
def openFinding (settings : Settings) (f : Finding) : Action (Host ν) Client := do
  if f.isRemote then
    if f.url = .null then throw .assertion
    let url ← lift (Options.urlOf f.url)
    lift (homeserver (settledSettings settings) url f.token)
  else match f.path with
    | some path => openLocal settings path (orElse settings.options.user f.user)
    | none => throw (.notFound (.sourceWithoutPath f.origin))

/-- **Open a client.** -/
def ofSettings (s : Settings) : Action (Host ν) Client := do
  match s.target with
  | .memory => return memory s
  | .directory path =>
    let opened ← Store.Directory.openOrMake path s.options.createIfMissing s.options.homeServer
    return ofOpened s path s.options.user opened
  | .homeserver url => lift (homeserver s url s.options.token)
  | .nearestDirectory => openFinding s (← Discovery.find none true)
  | .discovered => openFinding s (← Discovery.find none false)

/-- The settings of given options on the host. -/
def settingsOf (o : Options) : Action (Host ν) Settings := do
  let h ← getState
  lift (Settings.ofOptions h.environment h.directory o)

/-- Open the client that options lead to. -/
def ofOptions (o : Options) : Action (Host ν) Client := do ofSettings (← settingsOf o)

/-- Make a local store, or open the one that is there, and let the repository ignore it if that is
wanted. Nobody acts on it yet. -/
def create (path : Option Path) (homeServer : Value) (ignore : Bool) : Action (Host ν) Client := do
  let path ← match path with
    | some p => pure p
    | none => Discovery.newDirectory none
  let opened ← Store.Directory.openOrMake path true homeServer
  if ignore then
    let _ ← Discovery.ensureIgnored path
  let settings ← settingsOf { path := .text path.toText }
  return ofOpened settings path .null opened

/-- Open the client that a source stands for, as a user if one is given. -/
def ofSource (s : Source) (user : Value) : Action (Host ν) Client := do
  if s.isRemote then
    if s.url = .null then throw .assertion
    ofOptions (Options.forHomeserver s.url s.token)
  else ofOptions (Options.forLocal s.path (orElse user s.user) false)

end PairChat.Client
