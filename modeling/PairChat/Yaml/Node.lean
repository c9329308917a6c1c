import PairChat.Failure
import PairChat.Yaml.Tag
import PairChat.Yaml.Token

/-!
# Nodes: a document as a graph

A `Node` is a scalar, a sequence or a mapping, each with its tag.  Its parts are nodes of the same
`Graph`, given by their numbers, so that an alias is the number of the node that it stands for, and
a node may be a part of itself. `Graph.ofTokens` reads the tokens of a document as a graph.  There
is at most one document, and none has no graph.
-/

namespace PairChat.Yaml

/-- What a node is written as. Parts are given by their numbers. -/
inductive Shape where
  | scalar (text : String)
  | sequence (items : List Nat)
  | mapping (entries : List (Nat × Nat))
deriving Repr

/-- A piece of a document. -/
structure Node where
  tag : Tag
  shape : Shape
deriving Repr

/-- A document: its nodes by number, the number of the whole, and whether an alias stands for one of
them. -/
structure Graph where
  nodes : Array Node
  root : Nat
  hasAlias : Bool
deriving Repr

namespace Graph

/-- What is left to read, the nodes that were read, those with an anchor, and the handles of
tags. -/
structure Reading where
  tokens : List Token
  nodes : Array Node := #[]
  hasAlias : Bool := false
  anchors : List (String × Nat) := []
  handles : List (String × String) := []
  /-- How many levels deeper the next collection may be nested. -/
  room : Nat := 480

/-- A step of the reading. -/
abbrev Read : Type → Type := StateT Reading (Except Failure)

/-- The document is malformed. -/
def malformed {α : Type} : Read α := throw .badYaml

/-- The token that comes next. -/
def peek : Read Token := do
  match (← get).tokens.headD .streamEnd with
  | .failed f => throw f
  | t => return t

/-- Pass a token. -/
def pass : Read Unit := modify fun r => { r with tokens := r.tokens.tail }

/-- Pass a token if it comes next, and say whether it did. -/
def skip (t : Token) : Read Bool := do
  if (← peek) = t then
    pass
    return true
  else return false

/-- Pass a token that has to come next. -/
def expect (t : Token) : Read Unit := do
  if !(← skip t) then malformed

/-- One node more. The answer is its number. -/
def put (tag : Tag) (shape : Shape) : Read Nat := do
  let r ← get
  set { r with nodes := r.nodes.push ⟨tag, shape⟩ }
  return r.nodes.size

/-- The node that nothing is written for. -/
def empty : Read Nat := put .null (.scalar "")

/-! ### Properties -/

/-- What may stand before a node. -/
structure Properties where
  anchor : Option String := none
  /-- The name of the tag, if one is written. -/
  tag : Option String := none

/-- The handles that are always known. -/
def usualHandles : List (String × String) := [("!", "!"), ("!!", Tag.base)]

/-- The name of a tag. -/
def tagName (t : TagText) : Read String := do
  match t.handle with
  | none => return t.suffix
  | some h =>
    match ((← get).handles ++ usualHandles).lookup h with
    | some base => return base ++ t.suffix
    | none => malformed

/-- The anchor that comes next, if there is one. -/
def anchor? : Read (Option String) := do
  match ← peek with
  | .anchor name =>
    pass
    return some name
  | _ => return none

/-- The tag that comes next as it is written, if there is one. -/
def tag? : Read (Option TagText) := do
  match ← peek with
  | .tag t =>
    pass
    return some t
  | _ => return none

/-- The properties that come next, in either order. -/
def properties : Read Properties := do
  let before ← anchor?
  let tag ← tag?
  let anchor ← if before.isNone && tag.isSome then anchor? else pure before
  return ⟨anchor, ← tag.mapM tagName⟩

namespace Properties

variable (p : Properties)

/-- Is no tag written, or only the mark that leaves it open? -/
def isOpen : Bool := p.tag.isNone || p.tag == some "!"

/-- The tag of a scalar. The form of its text counts if it is plain, or if the tag is left open by
the mark. -/
def scalarTag (text : String) (isPlain : Bool) : Tag :=
  match p.tag with
  | none => if isPlain then Tag.ofPlain text else .text
  | some name => if name = "!" then Tag.ofPlain text else Tag.ofName name

/-- The tag of a collection. -/
def collectionTag (usual : Tag) : Tag := if p.isOpen then usual else Tag.ofName (p.tag.getD "")

/-- Is nothing written? -/
def isEmpty : Bool := p.anchor.isNone && p.tag.isNone

end Properties

/-- An anchor may be given once only. -/
def checkAnchor (p : Properties) : Read Unit := do
  if let some name := p.anchor then
    if ((← get).anchors.lookup name).isSome then malformed

/-- A node with the anchor that is written before it. -/
def named (p : Properties) (tag : Tag) (shape : Shape) : Read Nat := do
  checkAnchor p
  let id ← put tag shape
  if let some name := p.anchor then
    modify fun r => { r with anchors := (name, id) :: r.anchors }
  return id

/-- A scalar with its properties. -/
def scalar (p : Properties) (text : String) (isPlain : Bool) : Read Nat :=
  named p (p.scalarTag text isPlain) (.scalar text)

/-- Read one level deeper, which has to be allowed. -/
def deeper {α : Type} (read : Read α) : Read α := do
  let room := (← get).room
  if room = 0 then throw (.shape .depth)
  modify fun r => { r with room := room - 1 }
  let x ← read
  modify fun r => { r with room }
  return x

/-- A sequence with its properties. Its anchor can be used inside it. -/
def sequence (p : Properties) (items : Read (List Nat)) : Read Nat := do
  let tag := p.collectionTag .list
  let id ← named p tag (.sequence [])
  let items ← deeper items
  modify fun r => { r with nodes := r.nodes.setIfInBounds id ⟨tag, .sequence items⟩ }
  return id

/-- A mapping with its properties. Its anchor can be used inside it. -/
def mapping (p : Properties) (entries : Read (List (Nat × Nat))) : Read Nat := do
  let tag := p.collectionTag .map
  let id ← named p tag (.mapping [])
  let entries ← deeper entries
  modify fun r => { r with nodes := r.nodes.setIfInBounds id ⟨tag, .mapping entries⟩ }
  return id

/-- The node that an alias stands for. -/
def aliased (name : String) : Read Nat := do
  let r ← get
  match r.anchors.lookup name with
  | some id =>
    set { r with hasAlias := true }
    return id
  | none => malformed

/-! ### Nodes and collections -/

mutual

/-- The node that comes next. A block may begin only where one is allowed, and a sequence that is
not indented only as the value of a key. -/
def node (block indentless : Bool) : Nat → Read Nat
  | 0 => malformed
  | fuel + 1 => do
    match ← peek with
    | .alias name =>
      pass
      aliased name
    | _ =>
      let p ← properties
      match ← peek with
      | .scalar text isPlain =>
        pass
        scalar p text isPlain
      | .flowSequence =>
        pass
        sequence p (flowItems true fuel)
      | .flowMapping =>
        pass
        mapping p (flowEntries true fuel)
      | .blockSequence =>
        if !block then malformed
        pass
        sequence p (blockItems fuel)
      | .blockMapping =>
        if !block then malformed
        pass
        mapping p (blockEntries fuel)
      | .entry =>
        if indentless then sequence p (plainItems fuel)
        else if p.isEmpty then malformed
        else scalar p "" true
      | _ => if p.isEmpty then malformed else scalar p "" true

/-- The node that comes next, or nothing before one of the tokens. -/
def nodeUnless (stops : List Token) (block indentless : Bool) : Nat → Read Nat
  | 0 => malformed
  | fuel + 1 => do
    if stops.contains (← peek) then empty else node block indentless fuel

/-- The items of a sequence in a block. -/
def blockItems : Nat → Read (List Nat)
  | 0 => malformed
  | fuel + 1 => do
    if ← skip .entry then
      let item ← nodeUnless [.entry, .blockEnd] true false fuel
      return item :: (← blockItems fuel)
    expect .blockEnd
    return []

/-- The items of a sequence that is not indented. -/
def plainItems : Nat → Read (List Nat)
  | 0 => malformed
  | fuel + 1 => do
    if ← skip .entry then
      let item ← nodeUnless [.entry, .key, .value, .blockEnd] true false fuel
      return item :: (← plainItems fuel)
    return []

/-- The entries of a mapping in a block. -/
def blockEntries : Nat → Read (List (Nat × Nat))
  | 0 => malformed
  | fuel + 1 => do
    if ← skip .key then
      let key ← nodeUnless [.key, .value, .blockEnd] true true fuel
      let value ←
        if ← skip .value then nodeUnless [.key, .value, .blockEnd] true true fuel else empty
      return (key, value) :: (← blockEntries fuel)
    expect .blockEnd
    return []

/-- The items of a sequence in brackets. An item may be a mapping with one entry. -/
def flowItems (first : Bool) : Nat → Read (List Nat)
  | 0 => malformed
  | fuel + 1 => do
    if ← skip .flowSequenceEnd then return []
    if !first then expect .flowEntry
    if ← skip .key then
      let item ← mapping {} do
        let key ← nodeUnless [.value, .flowEntry, .flowSequenceEnd] false false fuel
        let value ← if ← skip .value then nodeUnless [.flowEntry, .flowSequenceEnd] false false fuel
          else empty
        return [(key, value)]
      return item :: (← flowItems false fuel)
    if ← skip .flowSequenceEnd then return []
    let item ← node false false fuel
    return item :: (← flowItems false fuel)

/-- The entries of a mapping in braces. A key may stand alone. -/
def flowEntries (first : Bool) : Nat → Read (List (Nat × Nat))
  | 0 => malformed
  | fuel + 1 => do
    if ← skip .flowMappingEnd then return []
    if !first then expect .flowEntry
    if ← skip .key then
      let key ← nodeUnless [.value, .flowEntry, .flowMappingEnd] false false fuel
      let value ← if ← skip .value then nodeUnless [.flowEntry, .flowMappingEnd] false false fuel
        else empty
      return (key, value) :: (← flowEntries false fuel)
    if ← skip .flowMappingEnd then return []
    let key ← node false false fuel
    let value ← empty
    return (key, value) :: (← flowEntries false fuel)

end

/-! ### Documents -/

/-- The directives before a document, and whether a version was among them. -/
def directives (version : Bool) : Nat → Read Unit
  | 0 => malformed
  | fuel + 1 => do
    match ← peek with
    | .directive (.version major) =>
      if version || major ≠ 1 then malformed
      pass
      directives true fuel
    | .directive (.handle h base) =>
      let r ← get
      if (r.handles.lookup h).isSome then malformed
      set { r with handles := (h, base) :: r.handles }
      pass
      directives version fuel
    | .directive .unknown =>
      pass
      directives version fuel
    | _ => return ()

/-- Pass the marks that end a document. -/
def passEnds : Nat → Read Unit
  | 0 => malformed
  | fuel + 1 => do
    if ← skip .documentEnd then passEnds fuel

/-- Does an explicit document come next, or none? -/
def beginsDocument : Token → Bool
  | .directive _ | .documentStart | .streamEnd => true
  | _ => false

/-- Does a document without content come to its end? -/
def endsDocument : Token → Bool
  | .documentEnd => true
  | t => beginsDocument t

/-- The number of the only document, if there is one. -/
def document (fuel : Nat) : Read (Option Nat) := do
  if (← peek) = .streamEnd then return none
  let content ←
    if beginsDocument (← peek) then do
      directives false fuel
      expect .documentStart
      if endsDocument (← peek) then empty else node true false fuel
    else node true false fuel
  passEnds fuel
  expect .streamEnd
  return some content

/-- **The graph that tokens write.** Every token is looked at a few times at most. -/
def ofTokens (tokens : List Token) : Except Failure (Option Graph) := do
  let (root, r) ← (document (4 * tokens.length + 8)).run { tokens }
  return root.map fun root => ⟨r.nodes, root, r.hasAlias⟩

end Graph

end PairChat.Yaml
