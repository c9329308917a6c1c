import PairChat.Source
import PairChat.Text.Blank
import PairChat.Text.Lines

/-!
# Discovery: which provider is meant if none is named

Environment variables come first, then the default source, then a local store: the one in the
directory itself, or the one at the root of the repository around it.  A `Finding` is what was
found, and how.

The local store should be no part of the repository, so `ensureIgnored` adds it to the list of
ignored files.
-/

namespace PairChat

open PairChat.Action
open Files (Path)

/-- What was found, and how. Without a location it is a local store. -/
structure Finding where
  isRemote : Bool
  path : Option Path := none
  url : Value := .null
  token : Value := .null
  user : Value := .null
  origin : String
deriving DecidableEq, Repr

namespace Discovery

variable {ν : Type}

/-- The name of the directory of a local store. -/
def directoryName : String := ".directchats"

/-! ### Places -/

/-- The innermost directory with a repository, going up from some names. -/
def rootAbove (h : Host ν) : List String → List String → Except Failure (Option Path)
  | names, rest => do
    let p : Path := ⟨"/", names⟩
    if ← h.tree.exists? h.directory (p.child ".git") then return some p
    else match rest with
      | [] => return none
      | _ :: rest => rootAbove h names.dropLast rest

/-- **The root of the repository around a path.** -/
def repositoryRoot (p : Path) : Action (Host ν) (Option Path) := do
  let h ← getState
  let names := (← Host.resolved p).names
  lift (rootAbove h names names)

/-- Where a search begins: at a path, or in the current directory. -/
def start (p : Option Path) : Action (Host ν) Path :=
  match p with
  | none => Host.ask (·.directory)
  | some p => Host.resolved p

/-- The directory of a local store: in the directory itself, or at the root of the repository. -/
def localDirectory (p : Option Path) : Action (Host ν) (Option Path) := do
  let here ← start p
  let near := here.child directoryName
  if ← Host.isDirectory near then return some near
  match ← repositoryRoot here with
  | none => return none
  | some root =>
    let far := root.child directoryName
    return if ← Host.isDirectory far then some far else none

/-- Where a new local store belongs: at the root of the repository, or in the directory itself. -/
def newDirectory (p : Option Path) : Action (Host ν) Path := do
  let here ← start p
  return ((← repositoryRoot here).getD here).child directoryName

/-! ### Providers -/

/-- A variable as a value. -/
def variableValue (name : String) : Action (Host ν) Value := do
  return .ofText? (← Host.setting? name)

/-- What the default source says. -/
def ofSource (file : Path) (s : Source) : Except Failure Finding := do
  let originOf (name : String) : String := "default source " ++ name ++ " in " ++ file.toText
  if s.isRemote then
    return {
      isRemote := true, url := s.url, token := s.token
      origin := originOf (← s.name.quotedText) }
  else
    let path ← if s.path.isEmpty then pure none else match s.path with
      | .text p => pure (some (Path.ofText p))
      | _ => throw (.shape .type)
    return { isRemote := false, path, user := s.user, origin := originOf (← s.name.quotedText) }

/-- What the variables say. A directory that is named has to exist. -/
def fromVariables (requireLocal : Bool) : Action (Host ν) (Option Finding) := do
  let path := ((← Host.setting? Environment.storePath).getD "")
  let url := ((← Host.setting? Environment.serverUrl).getD "")
  if path != "" then
    let p := Path.ofText path
    if ← Host.isDirectory p then
      return some {
        isRemote := false, path := some p, user := ← variableValue Environment.userId
        origin := Environment.storePath ++ " environment variable" }
    else throw (.notFound (.pathMissing path))
  else if url != "" && !requireLocal then
    return some {
      isRemote := true, url := .text url, token := ← variableValue Environment.accessToken
      origin := Environment.serverUrl ++ " environment variable" }
  else return none

/-- What the default source says, if there is one. -/
def fromSources : Action (Host ν) (Option Finding) := do
  if ← Sources.exist then
    match (← Sources.load).default? with
    | some s => return some (← lift (ofSource (← Sources.file) s))
    | none => return none
  else return none

/-- The local store that is near. -/
def fromDirectory (p : Option Path) : Action (Host ν) (Option Finding) := do
  match ← localDirectory p with
  | some path =>
    return some {
      isRemote := false, path := some path, user := ← variableValue Environment.userId
      origin := "found " ++ path.toText }
  | none => return none

/-- **What is meant if no provider is named.** -/
def find (p : Option Path) (requireLocal : Bool) : Action (Host ν) Finding := do
  if let some f ← fromVariables requireLocal then return f
  if !requireLocal then
    if let some f ← fromSources then return f
  if let some f ← fromDirectory p then return f
  throw (.notFound (if requireLocal then .noStore else .nothing))

/-! ### Ignored files -/

/-- The line that makes a repository ignore the store. -/
def ignoreLine : String := directoryName ++ "/\n"

/-- Does a line of a list of ignored files name the store? -/
def namesStore (line : List Char) : Bool :=
  Text.stripBy (· == '/') (Text.strip line) == directoryName.toList

/-- Does a list of ignored files name the store? -/
def isIgnored (text : String) : Bool := (Text.lines text.toList).any namesStore

/-- What is added to a list of ignored files that does not name the store. -/
def ignoreAddition (text : String) : String :=
  (if text.isEmpty || text.endsWith "\n" then "" else "\n") ++ ignoreLine

/-- **Make the repository around a store ignore it.** The answer says whether anything was
changed. -/
def ensureIgnored (store : Path) : Action (Host ν) Bool := do
  match ← repositoryRoot store.parent with
  | none => return false
  | some root =>
    let file := root.child ".gitignore"
    let text ← if ← Host.exists? file then Host.textAt file else pure ""
    if isIgnored text then return false
    Host.appendFile file (ignoreAddition text)
    return true

end Discovery

end PairChat
