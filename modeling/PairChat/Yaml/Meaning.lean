import PairChat.Yaml.Node
import PairChat.Yaml.Scalar

/-!
# Meanings: what the nodes of a document stand for

Every node has one `Meaning`, however often it is referred to.  A scalar is read at once.  A
collection is first known to be one, and its parts are read later, in the order in which the
collections were met (`Meaning.settle`); so a collection may be a part of itself.

Before the entries of a mapping are read, those that are merged in are put in front of its own
(`Meanings.mergeFrom`).  A text may be written as a mapping, and then stands under the sign for the
usual value.
-/

namespace PairChat.Yaml

/-- What a node stands for. Parts are given by the numbers of their nodes. -/
inductive Meaning where
  | scalar (s : PairChat.Scalar)
  | list (items : List Nat)
  | pairs (items : List (Nat × Nat))
  | map (entries : List (PairChat.Scalar × Nat))
  | set (members : List PairChat.Scalar)
deriving Repr

/-- The nodes of a document, what is known of their meanings, and the collections whose parts are
still to be read. -/
structure Meanings where
  nodes : Array Node
  known : Array (Option Meaning)
  waiting : List Nat := []

namespace Meanings

/-- A step of finding out the meanings. -/
abbrev Find : Type → Type := StateT Meanings (Except Failure)

/-- The document is malformed. -/
def malformed {α : Type} : Find α := throw .badYaml

/-- The node with a number. -/
def node (id : Nat) : Find Node := do
  match (← get).nodes[id]? with
  | some n => return n
  | none => malformed

/-- Another form of a node. -/
def setShape (id : Nat) (shape : Shape) : Find Unit :=
  modify fun m => { m with nodes := m.nodes.modify id fun n => { n with shape } }

/-- A node whose tag is the sign for the usual value is a text from now on. -/
def setText (id : Nat) : Find Unit :=
  modify fun m => { m with nodes := m.nodes.modify id fun n =>
    if n.tag = .default then { n with tag := .text } else n }

/-- The entries of a mapping, none if the node is no mapping. -/
def entries (id : Nat) : Find (List (Nat × Nat)) := do
  match (← node id).shape with
  | .mapping es => return es
  | _ => return []

/-- Is the node a mapping? -/
def isMapping (id : Nat) : Find Bool := do
  match (← node id).shape with
  | .mapping _ => return true
  | _ => return false

/-- Has the node the tag? -/
def hasTag (tag : Tag) (id : Nat) : Find Bool := return (← node id).tag = tag

/-! ### Merging -/

/-- The place of the first entry from a place on whose key stands for merging. The keys before it
that are the sign for the usual value become texts. -/
def nextMerge? (index : Nat) : List (Nat × Nat) → Find (Option (Nat × Nat))
  | [] => return none
  | (key, value) :: es => do
    if ← hasTag .merge key then return some (index, value)
    else
      setText key
      nextMerge? (index + 1) es

/-- **Put what is merged into a mapping in front of its entries**, going through them from a place
on. An entry for merging is taken out before the mappings are looked at that it names, so there are
no more steps than entries. -/
def mergeFrom (id index : Nat) (merged : List (Nat × Nat)) : Nat → Find Unit
  | 0 => malformed
  | fuel + 1 => do
    match ← nextMerge? index ((← entries id).drop index) with
    | none => setShape id (.mapping (merged ++ (← entries id)))
    | some (place, value) =>
      setShape id (.mapping ((← entries id).eraseIdx place))
      let more ← match (← node value).shape with
        | .mapping _ =>
          mergeFrom value 0 [] fuel
          entries value
        | .sequence items =>
          let parts ← items.mapM fun item => do
            if !(← isMapping item) then malformed
            mergeFrom item 0 [] fuel
            entries item
          pure parts.reverse.flatten
        | .scalar _ => malformed
      mergeFrom id place (merged ++ more) fuel

/-- How many entries all mappings have together. -/
def entryCount (nodes : Array Node) : Nat :=
  nodes.foldl (fun n node => match node.shape with
    | .mapping es => n + es.length
    | _ => n) 0

/-! ### Scalars -/

/-- The text of a node. That of a mapping is found under the sign for the usual value, at any
depth. -/
def textOf (id : Nat) : Nat → Find String
  | 0 => throw (.shape .depth)
  | fuel + 1 => do
    match (← node id).shape with
    | .scalar text => return text
    | .sequence _ => malformed
    | .mapping es =>
      match ← es.findM? fun e => hasTag .default e.1 with
      | some (_, value) => textOf value fuel
      | none => malformed

/-- Does a node with the tag stand for nothing by itself? -/
def isMeaningless : Tag → Bool
  | .merge | .default | .unknown => true
  | _ => false

/-- The scalar that a node with a tag stands for. A moment has to be written as a scalar. -/
def scalarOf (id : Nat) (tag : Tag) : Find PairChat.Scalar := do
  if isMeaningless tag then malformed
  let text ← textOf id ((← get).nodes.size + 1)
  if tag = .moment && (← isMapping id) then throw (.shape .type)
  match Scalar.ofTagged tag text with
  | .ok s => return s
  | .error f => throw f

/-! ### Collections -/

/-- The meaning of a node is known. -/
def learn (id : Nat) (meaning : Meaning) : Find Unit :=
  modify fun m => { m with known := m.known.setIfInBounds id (some meaning) }

/-- What is known of a node with the tag of a collection before its parts are read. -/
def unread? : Tag → Option Meaning
  | .list => some (.list [])
  | .map => some (.map [])
  | .set => some (.set [])
  | .orderedMap | .pairs => some (.pairs [])
  | _ => none

/-- Find out what a node stands for. The parts of a collection have to wait. -/
def meet (id : Nat) : Find Unit := do
  if (((← get).known[id]?).join).isSome then return
  let tag := (← node id).tag
  match unread? tag with
  | some meaning =>
    learn id meaning
    modify fun m => { m with waiting := m.waiting ++ [id] }
  | none => learn id (.scalar (← scalarOf id tag))

/-- The key that a node is. Only a scalar is one. -/
def keyOf (id : Nat) : Find PairChat.Scalar := do
  meet id
  match ((← get).known[id]?).join with
  | some (.scalar s) => return s
  | _ => malformed

/-- The entries of a mapping, with those that are merged in. A key that is written again has its
last value. -/
def entriesOf (id : Nat) : Find (List (PairChat.Scalar × Nat)) := do
  if !(← isMapping id) then malformed
  mergeFrom id 0 [] (entryCount (← get).nodes + 1)
  (← entries id).foldlM (fun read (key, value) => do
    let key ← keyOf key
    meet value
    return putEntry key value read) []

/-- The items of a sequence. -/
def itemsOf (id : Nat) : Find (List Nat) := do
  match (← node id).shape with
  | .sequence items => return items
  | _ => malformed

/-- The natural number that a scalar is. -/
def nat? : PairChat.Scalar → Option Nat
  | .int (.ofNat n) => some n
  | _ => none

/-- The members of a set as they are listed: natural numbers in ascending order, other members as
they are written. -/
def listed (members : List PairChat.Scalar) : List PairChat.Scalar :=
  match members.mapM nat? with
  | some ns => (ns.mergeSort (· ≤ ·)).map fun (n : Nat) => .int n
  | none => members

/-- The key and the value of a mapping with one entry. -/
def pairOf (id : Nat) : Find (Nat × Nat) := do
  match (← node id).shape with
  | .mapping [(key, value)] =>
    meet key
    meet value
    return (key, value)
  | _ => malformed

/-- Read the parts of a collection. -/
def settle (id : Nat) : Find Unit := do
  match ((← get).known[id]?).join with
  | some (.list _) =>
    let items ← itemsOf id
    items.forM meet
    learn id (.list items)
  | some (.pairs _) => learn id (.pairs (← (← itemsOf id).mapM pairOf))
  | some (.map _) => learn id (.map (← entriesOf id))
  | some (.set _) => learn id (.set (listed ((← entriesOf id).map (·.1))))
  | some (.scalar _) | none => return

/-- Read the parts of all collections that wait. Each of them waits once. -/
def settleAll : Nat → Find Unit
  | 0 => malformed
  | fuel + 1 => do
    match (← get).waiting with
    | [] => return
    | id :: rest =>
      modify fun m => { m with waiting := rest }
      settle id
      settleAll fuel

/-- **What the nodes of a document stand for.** -/
def ofGraph (g : Graph) : Except Failure (Array (Option Meaning)) := do
  let start : Meanings := ⟨g.nodes, g.nodes.map fun _ => none, []⟩
  let ((), m) ← (do meet g.root; settleAll (g.nodes.size + 1) : Find Unit).run start
  return m.known

end Meanings

end PairChat.Yaml
