import PairChat.Failure

/-!
# Paths

A path is a root, empty for a relative path, and the names below it.  Reading a path drops empty
names and single dots and keeps double dots (`Path.ofText`).  `Path.resolve` is the absolute path
without double dots, as a path leads through a tree without links.

Not every path can be looked up: it may hold characters that no name has (`Path.fault?`), or be too
long (`Path.isTooLong`, `isLongName`).
-/

namespace PairChat.Files

/-- A root and the names below it. -/
structure Path where
  root : String := ""
  names : List String := []
deriving DecidableEq, Repr, Inhabited

namespace Path

/-- The parts of a text between slashes. -/
def splitSlashes (cs : List Char) : List (List Char) :=
  match cs with
  | [] => [[]]
  | c :: cs =>
    if c = '/' then [] :: splitSlashes cs
    else match splitSlashes cs with
      | [] => [[c]]
      | s :: ss => (c :: s) :: ss

/-- The root of a path: one slash, or two if exactly two are written. -/
def rootOf (cs : List Char) : String :=
  match (cs.takeWhile (· == '/')).length with
  | 0 => ""
  | 2 => "//"
  | _ => "/"

/-- The path that a text writes. -/
def ofText (s : String) : Path :=
  let cs := s.toList
  ⟨rootOf cs, ((splitSlashes cs).map String.ofList).filter fun n => n != "" && n != "."⟩

/-- Names with slashes between them. -/
def joinNames : List String → String
  | [] => ""
  | [n] => n
  | n :: ns => n ++ "/" ++ joinNames ns

/-- The written form of a path. -/
def toText (p : Path) : String :=
  if p.root = "" ∧ p.names = [] then "." else p.root ++ joinNames p.names

/-- Is the path absolute? -/
def isAbsolute (p : Path) : Bool := p.root != ""

/-- The second path, seen from the first. -/
def join (p q : Path) : Path := if q.isAbsolute then q else ⟨p.root, p.names ++ q.names⟩

/-- A path one name further down. -/
def child (p : Path) (name : String) : Path := ⟨p.root, p.names ++ [name]⟩

/-- The path without its last name. -/
def parent (p : Path) : Path := ⟨p.root, p.names.dropLast⟩

/-- One more name, where double dots lead back. -/
def enter (names : List String) (name : String) : List String :=
  if name = ".." then names.dropLast else names ++ [name]

/-- The names below the root without double dots. -/
def resolveNames (names : List String) : List String := names.foldl enter []

/-- The path below the root without double dots, seen from a directory. -/
def resolve (cwd p : Path) : Path := ⟨"/", resolveNames (cwd.join p).names⟩

/-! ### Paths that cannot be looked up -/

/-- How many bytes of a name a piece of a text is. Some halves of characters stand for a byte that
belongs to none. -/
def pieceSize? : Text.Piece → Option Nat
  | .char c => some c.utf8Size
  | .half unit => if 0xDC80 ≤ unit ∧ unit ≤ 0xDCFF then some 1 else none

/-- How many bytes a text has as a name, if it is one. -/
def size? (s : String) : Option Nat :=
  (Text.pieces s.toList).foldlM (fun n piece => (pieceSize? piece).map (n + ·)) 0

/-- **Why a path cannot be handed to the system**, if it cannot. -/
def fault? (p : Path) : Option Failure :=
  let s := p.toText
  if (size? s).isNone then some .notEncodable
  else if s.toList.contains (Char.ofNat 0) then some (.shape .value)
  else none

/-- The path below the root without double dots, unless it cannot be looked up. -/
def resolved (cwd p : Path) : Except Failure Path :=
  match p.fault? with
  | some f => .error f
  | none => .ok (cwd.resolve p)

/-- Is the name longer than any in a directory? -/
def isLongName (name : String) : Bool := 255 < (size? name).getD 0

/-- Is the path as a whole longer than any that the system follows? -/
def isTooLong (p : Path) : Bool := 4095 < (size? p.toText).getD 0

end Path

end PairChat.Files
