import PairChat.CommandLine.Report
import PairChat.Store.Document

/-!
# The command line

Reads the words of a command, carries it out on the files of this machine, and prints its report.
The files that a command can touch are read before it and written after it, so the command itself is
a function on a `Host`.  The tables of a store are kept as a document.  No homeserver can be reached
from here.
-/

namespace PairChat.Program

open CommandLine
open Files (Path Node Tree)

/-- No homeserver can be reached. -/
def nowhere : Web.Homeserver Unit where
  respond _ s := (none, s)

/-! ### Which files a command can touch -/

/-- A path and all paths above it, from the root down. -/
def above (p : Path) : List Path :=
  (List.range (p.names.length + 1)).map fun n => ⟨p.root, p.names.take n⟩

/-- A directory with the files of the store that it may be. -/
def storeAt (p : Path) : List Path :=
  [p, Store.Directory.configFile p, Store.Directory.tablesFile p]

/-- What is looked for in a directory: the mark of a repository, its list of ignored files, and a
store. -/
def inside (p : Path) : List Path :=
  p :: p.child ".git" :: p.child ".gitignore" :: storeAt (p.child Discovery.directoryName)

/-- What is looked for around the path of a store, or the directory that a search begins in. -/
def around (p : Path) : List Path := (above p).flatMap inside ++ storeAt p

/-- The paths of stores that a command names. -/
def namedBy : Command → List String
  | .initialise path _ _ | .register _ _ path _ | .users path => path.toList
  | .addSource _ _ directory _ _ _ => directory.toList
  | .chat .. | .sources | .removeSource _ | .defaultSource _ => []

/-- The paths of the stores among the sources. -/
def storesOf (ss : Sources) : List String := ss.all.filterMap fun s => s.path.text?

/-! ### Reading and writing files -/

/-- The text of a file. Bytes that are no text are taken one by one. -/
def textOf (bytes : ByteArray) : String :=
  (String.fromUTF8? bytes).getD (String.ofList (bytes.toList.map fun b => Char.ofNat b.toNat))

/-- A file with a text. The text of tables is a document. -/
def nodeOf (text : String) : Node :=
  match (Json.read? text).bind Store.Tables.ofValue? with
  | some tables => .store tables
  | none => .file text

/-- What is at a path, if there is anything. -/
def nodeAt? (p : Path) : IO (Option Node) := do
  try
    return some (nodeOf (textOf (← IO.FS.readBinFile p.toText)))
  catch
    | .inappropriateType .. => return some .directory
    | _ => return none

/-- The tree with what is at a path. -/
def readInto (t : Tree) (p : Path) : IO Tree := do
  let place := Path.resolveNames p.names
  if (t.node? place).isSome then return t
  match ← nodeAt? p with
  | some node => return Tree.put place node t
  | none => return t

/-- The tree with what is at some paths, and at those above them. -/
def readTree (ps : List Path) (t : Tree) : IO Tree := (ps.flatMap above).foldlM readInto t

/-- Write what is at a place. -/
def writeNode (place : List String) (node : Node) : IO Unit :=
  let p : Path := ⟨"/", place⟩
  match node with
  | .directory => IO.FS.createDirAll p.toText
  | .file text => IO.FS.writeFile p.toText text
  | .store tables => IO.FS.writeFile p.toText (Json.write tables.toValue)

/-- Write what a tree has that another one does not have. -/
def writeChanges (before after : Tree) : IO Unit :=
  after.forM fun (place, node) => do
    if before.node? place != some node then writeNode place node

/-! ### The host -/

/-- The variables that are set. -/
def readEnvironment : IO Environment :=
  Environment.names.filterMapM fun name => return (← IO.getEnv name).map (name, ·)

/-- The first instant after all that the stores of a tree know of. -/
def nextInstant (t : Tree) : Nat :=
  t.foldl (fun n (_, node) => match node with
    | .store tables => max n (tables.lastInstant + 1)
    | _ => n) 1

/-- The home directory of a user for whom no variable names one. -/
def defaultHome : String := "/root"

/-- The host that a command runs on. Rooms are counted from the first instant, since none has a
higher number than the instant it was made at. -/
def readHost (command : Command) : IO (Host Unit) := do
  let environment ← readEnvironment
  let directory := Path.ofText (toString (← IO.currentDir))
  let absolute (s : String) : Path := directory.join (Path.ofText s)
  let named := (namedBy command ++ (environment.value? Environment.storePath).toList).map absolute
  let host : Host Unit := { environment, directory, home := defaultHome, server := () }
  let config := absolute ((Sources.directoryIn host).child "config.yaml").toText
  let tree ← readTree (config :: (directory :: named).flatMap around) []
  let host := { host with tree }
  let stores := match (Sources.load.outcome host).1 with
    | .ok ss => storesOf ss
    | .error _ => []
  let tree ← readTree ((stores.map absolute).flatMap around) tree
  let instant := nextInstant tree
  return { host with tree, clock := instant, nextRoom := instant }

/-! ### Running -/

/-- How a command line is written. -/
def usage : String :=
  "Usage: directchats COMMAND [ARGUMENTS] [--OPTION VALUE]\n\nCommands:\n"
    ++ String.join (Command.all.map fun c => "  " ++ " ".intercalate c.1 ++ "\n")

/-- What is printed about a failure that no report is made of. -/
def wordingOf : Failure → String
  | .unreachable => "No homeserver can be reached from here."
  | f => f.message.getD (reprStr f)

/-- Carry out a command and print its report. -/
def runCommand (command : Command) : IO UInt32 := do
  let before ← readHost command
  let (result, after) := (command.run nowhere toString).outcome before
  writeChanges before.tree after.tree
  match result with
  | .ok report =>
    IO.print report.output
    IO.eprint report.errors
    return report.status.toUInt32
  | .error f =>
    IO.eprintln (wordingOf f)
    return 1

end PairChat.Program

/-- Carry out the command that words write. -/
def main (words : List String) : IO UInt32 :=
  match PairChat.CommandLine.Command.parse? words with
  | some command => PairChat.Program.runCommand command
  | none => do
    IO.eprint PairChat.Program.usage
    return 1
