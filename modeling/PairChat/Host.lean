import PairChat.Action
import PairChat.Environment
import PairChat.Files.Tree
import PairChat.Web.Exchange

/-!
# Hosts: what a client runs on

A `Host` is the environment, the files with the directory that relative paths are seen from, the
home directory of its user, and a homeserver that can be reached from it.  It counts instants and
rooms for all stores on it, and it keeps what was sent and how long was waited.

The file operations are those of `Files.Tree`, as actions.
-/

namespace PairChat

open Files (Path Tree)

/-- What a client runs on. -/
structure Host (ν : Type) where
  environment : Environment := []
  tree : Tree := []
  directory : Path := ⟨"/", []⟩
  home : String := "/"
  server : ν
  clock : Nat := 0
  nextRoom : Nat := 1
  exchanges : List (Web.Request × Option Web.Response) := []
  waits : List Decimal := []

namespace Host

open PairChat.Action

variable {ν : Type}

/-! ### Asking -/

/-- Ask about the host. -/
def ask {α : Type} (f : Host ν → α) : Action (Host ν) α := return f (← getState)

/-- The value of a variable. -/
def setting? (name : String) : Action (Host ν) (Option String) := ask (·.environment.value? name)

/-- Does the path lead to something? -/
def exists? (p : Path) : Action (Host ν) Bool := do
  let h ← getState
  lift (h.tree.exists? h.directory p)

/-- Does the path lead to a directory? -/
def isDirectory (p : Path) : Action (Host ν) Bool := do
  let h ← getState
  lift (h.tree.isDirectory h.directory p)

/-- The path below the root without double dots, if it can be looked up. -/
def resolved (p : Path) : Action (Host ν) Path := do
  let h ← getState
  lift (h.directory.resolved p)

/-- The text of a file, which has to be there. -/
def textAt (p : Path) : Action (Host ν) String := do
  let h ← getState
  lift (h.tree.text h.directory p)

/-! ### Changing -/

/-- See relative paths from another directory. -/
def enter (p : Path) : Action (Host ν) Unit := do
  if let some f := p.fault? then throw f
  let h ← getState
  match h.tree.placeOf h.directory p with
  | .error fault => throw (.file fault p.toText)
  | .ok place =>
    match h.tree.node? place with
    | some .directory => setState { h with directory := ⟨"/", place⟩ }
    | some _ => throw (.file .notDirectory p.toText)
    | none => throw (.file .missing p.toText)

/-- Set a variable, or remove it. -/
def setVariable (name : String) (value : Option String) : Action (Host ν) Unit := do
  let h ← getState
  setState { h with environment := match value with
    | some v => Environment.set name v h.environment
    | none => h.environment.unset name }

/-- Change the files. -/
def change (f : Path → Tree → Except Failure Tree) : Action (Host ν) Unit := do
  let h ← getState
  setState { h with tree := ← lift (f h.directory h.tree) }

/-- Make a directory, and those on the way to it. -/
def makePath (p : Path) : Action (Host ν) Unit :=
  ofOutcome fun h =>
    let (result, tree) := h.tree.makePath h.directory p
    (result, { h with tree })

/-- Write a text to a file. -/
def writeFile (p : Path) (text : String) : Action (Host ν) Unit :=
  change fun cwd t => t.writeFile cwd p text

/-- Write a text at the end of a file. -/
def appendFile (p : Path) (text : String) : Action (Host ν) Unit :=
  change fun cwd t => t.appendFile cwd p text

/-- Wait for some seconds. That never fails: how long a real clock can be waited for has a bound,
and a delay beyond it is not modelled. -/
def wait (seconds : Decimal) : Action (Host ν) Unit := do
  let h ← getState
  setState { h with waits := h.waits ++ [seconds] }

end Host

end PairChat
