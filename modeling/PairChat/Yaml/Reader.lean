import PairChat.Yaml.Meaning
import PairChat.Yaml.Token.Lexer

/-!
# Reading documents

`Graph.toValue` is the value of a document.  Where a document has an alias, every collection, day
and moment in it carries the number of its node as its mark, so that one that is referred to from
several places can be told from others that are equal to it; inside itself it is given by its mark
alone.

`read` is the value of a text, `null` if there is no document in it.
-/

namespace PairChat.Yaml

namespace Graph

/-- The values that are known already, by the number of their nodes. Only those are kept that refer
to nothing around them. -/
abbrev Known : Type := Array (Option Value)

/-- A step of the conversion. -/
abbrev Convert : Type → Type := StateM Known

/-- Can the scalar be told from others that are equal to it? -/
def hasIdentity : PairChat.Scalar → Bool
  | .date _ | .moment .. => true
  | _ => false

/-- A value with its mark, if marks are wanted. -/
def marked (wanted isLoop : Bool) (id : Nat) (v : Value) : Value :=
  if wanted then .shared id isLoop v else v

/-- All marks of several parts. -/
def together (parts : List (List Nat)) : List Nat :=
  parts.foldl (fun all ms => all ++ ms.filter (!all.contains ·)) []

/-- The value of the node with a number inside others, and the marks of those that it refers to. -/
def valueOf (meanings : Array (Option Meaning)) (wanted : Bool) :
    Nat → List Nat → Nat → Convert (Value × List Nat)
  | 0, _, _ => return (.null, [])
  | fuel + 1, around, id => do
    if around.contains id then return (.again id, [id])
    if let some v := ((← get)[id]?).join then return (v, [])
    let part (id' : Nat) : Convert (Value × List Nat) :=
      valueOf meanings wanted fuel (id :: around) id'
    let (content, marks, hasMark) ← match (meanings[id]?).join with
      | some (.scalar s) => pure (.scalar s, [], hasIdentity s)
      | some (.list items) =>
        let parts ← items.mapM part
        pure (.list (parts.map (·.1)), together (parts.map (·.2)), true)
      | some (.pairs items) =>
        let parts ← items.mapM fun (k, v) => do
          let key ← part k
          let value ← part v
          pure (Value.tuple [key.1, value.1], together [key.2, value.2])
        pure (.list (parts.map (·.1)), together (parts.map (·.2)), true)
      | some (.map entries) =>
        let parts ← entries.mapM fun (k, v) => do
          let value ← part v
          pure ((k, value.1), value.2)
        pure (.map (parts.map (·.1)), together (parts.map (·.2)), true)
      | some (.set members) => pure (.set members, [], true)
      | none => pure (.null, [], false)
    let v := marked (wanted && hasMark) (marks.contains id) id content
    let outer := marks.filter (· != id)
    if outer.isEmpty then modify fun known => known.setIfInBounds id (some v)
    return (v, outer)

/-- **The value of a document.** No node is nested deeper than there are nodes. -/
def toValue (g : Graph) : Except Failure Value := do
  let meanings ← Meanings.ofGraph g
  let none' : Known := g.nodes.map fun _ => none
  return ((valueOf meanings g.hasAlias (g.nodes.size + 1) [] g.root).run none').1.1

end Graph

/-- **The value of a text.** -/
def read (s : String) : Except Failure Value := do
  match ← Graph.ofTokens (← Token.scan s) with
  | none => return .null
  | some g => g.toValue

end PairChat.Yaml
