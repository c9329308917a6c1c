import PairChat.Failure
import PairChat.Files.Path
import PairChat.Store.Tables
import PairChat.Text.Lines

/-!
# File trees

A tree maps the places that exist to what is there: a directory, a file with a text, or a file with
the tables of a store.  A place is the list of names that leads to it from the root, and the root is
always a directory.  There are no links, so a path leads to one place; it leads nowhere if it passes
through something that is no directory, or through a name that is too long (`Tree.placeOf`).

Reading a file turns the line ends of other systems into line feeds; writing leaves the text as it
is.
-/

namespace PairChat.Files

open Store (Tables)

/-- What is at a place. -/
inductive Node where
  | directory
  | file (text : String)
  | store (tables : Tables)
deriving DecidableEq, Repr

/-- What is at each place that exists. -/
abbrev Tree : Type := List (List String × Node)

namespace Tree

variable (t : Tree)

/-- What is at a place, if it exists. -/
def node? (place : List String) : Option Node :=
  if place = [] then some .directory else t.lookup place

/-- The tree with a node put at a place. -/
def put (place : List String) (node : Node) : Tree → Tree
  | [] => [(place, node)]
  | (p, n) :: t => if p = place then (p, node) :: t else (p, n) :: put place node t

/-- Is there a directory at the place? -/
def isDirectoryAt (place : List String) : Bool := t.node? place == some .directory

/-! ### Following paths -/

/-- The place that names lead to from another place. Every place on the way has to be a
directory. -/
def follow (place : List String) : List String → Except FileFault (List String)
  | [] => .ok place
  | n :: ns =>
    match t.node? place with
    | some .directory =>
      if Path.isLongName n then .error .tooLong else follow (Path.enter place n) ns
    | some _ => .error .notDirectory
    | none => .error .missing

/-- **The place that a path leads to**, seen from a directory. -/
def placeOf (cwd p : Path) : Except FileFault (List String) :=
  if p.isTooLong then .error .tooLong else t.follow [] (cwd.join p).names

/-- What a path leads to. -/
def at? (cwd p : Path) : Option Node := (t.placeOf cwd p).toOption.bind t.node?

/-- What a path leads to, if it can be looked up. -/
def lookUp (cwd p : Path) : Except Failure (Option Node) :=
  if p.fault?.isSome then .ok none
  else match t.placeOf cwd p with
    | .ok place => .ok (t.node? place)
    | .error .tooLong => .error (.file .tooLong p.toText)
    | .error _ => .ok none

/-- Does the path lead to something? -/
def exists? (cwd p : Path) : Except Failure Bool := (t.lookUp cwd p).map (·.isSome)

/-- Does the path lead to a directory? -/
def isDirectory (cwd p : Path) : Except Failure Bool := (t.lookUp cwd p).map (· == some .directory)

/-! ### Changing the tree -/

/-- The tree with all directories on the way along some names, as far as they can be made. -/
def makeDirectories (path : String) (place : List String) :
    List String → Tree → Except Failure Unit × Tree
  | [], t => (.ok (), t)
  | n :: ns, t =>
    let next := Path.enter place n
    if Path.isLongName n then (.error (.file .tooLong path), t)
    else match t.node? next with
      | some .directory => makeDirectories path next ns t
      | some _ => (.error (.file (if ns.isEmpty then .exists else .notDirectory) path), t)
      | none => makeDirectories path next ns (put next .directory t)

/-- The tree with a directory at a path, and all directories on the way. Those on the way stay even
if it cannot be made. -/
def makePath (cwd p : Path) : Except Failure Unit × Tree :=
  match p.fault? with
  | some f => (.error f, t)
  | none =>
    if p.isTooLong then (.error (.file .tooLong p.toText), t)
    else makeDirectories p.toText [] (cwd.join p).names t

/-! ### Files -/

/-- The place of a file that is to be read or written. -/
def filePlace (cwd p : Path) : Except Failure (List String) :=
  match p.fault? with
  | some f => .error f
  | none => match t.placeOf cwd p with
    | .error fault => .error (.file fault p.toText)
    | .ok place =>
      if t.isDirectoryAt place then .error (.file .isDirectory p.toText) else .ok place

/-- The text of a file, with every line end as a line feed. -/
def text (cwd p : Path) : Except Failure String := do
  match t.node? (← t.filePlace cwd p) with
  | some (.file s) => return String.ofList (Text.joinBreaks s.toList)
  | some (.store _) => throw .storeUnreadable
  | some .directory | none => throw (.file .missing p.toText)

/-- The tree with a text in a file. -/
def writeFile (cwd p : Path) (text : String) : Except Failure Tree := do
  return put (← t.filePlace cwd p) (.file text) t

/-- The tree with a text at the end of a file, which is made if need be. -/
def appendFile (cwd p : Path) (text : String) : Except Failure Tree := do
  let place ← t.filePlace cwd p
  match t.node? place with
  | some (.file s) => return put place (.file (s ++ text)) t
  | some (.store _) => throw .storeUnreadable
  | some .directory | none => return put place (.file text) t

end Tree

end PairChat.Files
