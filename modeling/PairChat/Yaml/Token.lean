import PairChat.Failure

/-!
# Tokens: the pieces of a document

A document is first cut into tokens.  Besides the marks that are written there are tokens for what
only the layout shows: where a block begins and ends, and that what was read is a key.  Where the
document cannot be cut any further there is a last token with the failure.
-/

namespace PairChat.Yaml

/-- The tag of a node as it is written: a handle, unless the tag is written in full, and a
suffix. -/
structure TagText where
  handle : Option String
  suffix : String
deriving DecidableEq, Repr

/-- A directive before a document. -/
inductive Directive where
  | version (major : Nat)
  | handle (handle base : String)
  | unknown
deriving DecidableEq, Repr

/-- A piece of a document. A scalar is plain if it is written without quotes and marks. -/
inductive Token where
  | streamEnd
  | directive (d : Directive)
  | documentStart
  | documentEnd
  | blockSequence
  | blockMapping
  | blockEnd
  | flowSequence
  | flowSequenceEnd
  | flowMapping
  | flowMappingEnd
  | entry
  | flowEntry
  | key
  | value
  | alias (name : String)
  | anchor (name : String)
  | tag (tag : TagText)
  | scalar (text : String) (isPlain : Bool)
  | failed (f : Failure)
deriving DecidableEq, Repr

end PairChat.Yaml
