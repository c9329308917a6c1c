import PairChat.Failure
import PairChat.Json.Writer

/-!
# The block list

The blocked accounts are the keys of one entry of a document; the values of the keys carry nothing.
`BlockList.ofContent` reads them, also where the entry is written as a list of pairs, and
`toContent` writes them as a mapping.  An account that is blocked again keeps its place.
-/

namespace PairChat

/-- The blocked accounts, in order, as keys of a mapping. -/
abbrev BlockList : Type := List (Scalar × Value)

namespace BlockList

/-- The entry of the document that holds the list. -/
def field : String := "ignored_users"

/-- The parts of a value that a pair can be taken from. -/
def parts? : Value → Option (List Value)
  | .list items => some items
  | .map entries => some (entries.map fun e => .scalar e.1)
  | .set members => some (members.map .scalar)
  | .text s => some ((Text.pieces s.toList).map fun piece => .text (String.ofList (match piece with
      | .char c => [c]
      | .half unit => Text.half unit)))
  | .scalar (.bytes bs) => some (bs.map fun b => .int b.toNat)
  | _ => none

/-- The entry that an item of a list of pairs stands for. -/
def pair (item : Value) : Except Failure (Scalar × Value) :=
  match parts? item with
  | none => .error (.shape .type)
  | some [.scalar key, value] => .ok (key, value)
  | some [_, _] => .error (.shape .type)
  | some _ => .error (.shape .value)

/-- The entries that a value stands for. -/
def entries (v : Value) : Except Failure BlockList :=
  match v with
  | .map entries => .ok entries
  | v =>
    match parts? v with
    | none => .error (.shape .type)
    | some items => do
      let pairs ← items.mapM pair
      .ok (distinctEntries pairs)

/-- The block list that a document holds; a missing document or entry holds none. -/
def ofContent (content : Value) : Except Failure BlockList :=
  if content.isEmpty then .ok []
  else match content with
    | .map es => match es.lookup (.text field) with
      | some v => entries v
      | none => .ok []
    | _ => .error (.shape .attribute)

/-- The document of a block list. -/
def toContent (blocked : BlockList) : Value := .object [(field, Json.ofEntries blocked)]

/-- The blocked accounts. -/
def accounts (blocked : BlockList) : List Scalar := blocked.map (·.1)

/-- Is the account blocked? -/
def contains (blocked : BlockList) (user : String) : Bool :=
  blocked.any fun e => e.1.same (.text user)

/-- The list with one account more, unless it is blocked already. -/
def block (blocked : BlockList) (user : String) : BlockList :=
  putEntry (.text user) (.map []) blocked

/-- The list without an account. -/
def unblock (blocked : BlockList) (user : String) : BlockList := eraseEntry (.text user) blocked

end BlockList

end PairChat
