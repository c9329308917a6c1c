import PairChat.Store.Account
import PairChat.Yaml.File

/-!
# Stores in directories

A local store is a directory with two files: a document with the name of the home server, and the
tables.  Opening one makes the file of the tables if it is not there; making a store makes the
directory and both files.
-/

namespace PairChat.Store.Directory

open PairChat.Action
open Files (Path)

variable {ν : Type}

/-- The document of a store. -/
def configFile (p : Path) : Path := p.child "config.yaml"

/-- The file of the tables. -/
def tablesFile (p : Path) : Path := p.child "data.db"

/-! ### The name of the home server -/

/-- The name of the home server that a document holds. -/
def homeServerOf (v : Value) : Except Failure Value :=
  match if v.isEmpty then .map [] else v.core with
  | .map es => .ok ((Value.get? "home_server" (.map es)).getD (.text defaultHomeServer))
  | _ => .error (.shape .attribute)

/-- The name of the home server of a store. -/
def loadHomeServer (p : Path) : Action (Host ν) Value := do
  let file := configFile p
  if ← Host.exists? file then lift (homeServerOf (← Yaml.load file))
  else return .text defaultHomeServer

/-- Keep the name of the home server of a store. -/
def saveHomeServer (p : Path) (homeServer : Value) : Action (Host ν) Unit :=
  Yaml.save (configFile p) [(.text "home_server", homeServer)]

/-! ### The tables -/

/-- What is at a place after the file of the tables was opened there. A file that was never written
has no tables yet. -/
def openedAs : Option Files.Node → Except Failure Files.Node
  | none => .ok (.store {})
  | some (.store tables) => .ok (.store tables)
  | some (.file s) => if s.utf8ByteSize ≤ 1 then .ok (.store {}) else .error .storeCorrupt
  | some .directory => .error .storeUnreadable

/-- How many bytes the place of the tables may have, with room for the files that stand beside
it. -/
def longestPlace : Nat := 504

/-- Is the place too long for tables? -/
def isLongPlace (place : List String) : Bool :=
  longestPlace < ((Path.size? (Path.toText ⟨"/", place⟩)).getD 0)

/-- Open the file of the tables. The answer is its place. -/
def openTables (p : Path) : Action (Host ν) (List String) := do
  let h ← getState
  match h.tree.placeOf h.directory (tablesFile p) with
  | .error _ => throw .storeUnreadable
  | .ok place =>
    if isLongPlace place then throw .storeUnreadable
    let node ← lift (openedAs (h.tree.node? place))
    setState { h with tree := Files.Tree.put place node h.tree }
    return place

/-! ### Opening and making stores -/

/-- A store that was opened: its home server, and the place of its tables. -/
structure Opened where
  homeServer : Value
  file : List String
deriving DecidableEq, Repr

/-- Open a store. -/
def load (p : Path) : Action (Host ν) Opened := do
  let homeServer ← loadHomeServer p
  return ⟨homeServer, ← openTables p⟩

/-- Make a store. The name of the home server may be missing. -/
def make (p : Path) (homeServer : Value) : Action (Host ν) Opened := do
  Host.makePath p
  let homeServer := if homeServer.isEmpty then .text defaultHomeServer else homeServer
  saveHomeServer p homeServer
  return ⟨homeServer, ← openTables p⟩

/-- **Open the store at a path**, or make it if there is nothing and that is wanted. -/
def openOrMake (p : Path) (createIfMissing : Bool) (homeServer : Value) :
    Action (Host ν) Opened := do
  if ← Host.exists? p then load p
  else if createIfMissing then make p homeServer
  else throw (.storeMissing p.toText)

end PairChat.Store.Directory
