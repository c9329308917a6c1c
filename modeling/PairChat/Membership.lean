/-!
# Memberships: how an account stands to a room

Five states, each with its word on the wire.  `ofWire?` reads a word, `wire` writes it, and reading
undoes writing (`ofWire?_wire`); no other word is read (`ofWire?_eq_some_iff`).
-/

namespace PairChat

/-- How an account stands to a room. -/
inductive Membership where
  | invited
  | joined
  | left
  | banned
  | requested
deriving DecidableEq, Repr, Inhabited

namespace Membership

/-- All states. -/
def all : List Membership := [.invited, .joined, .left, .banned, .requested]

/-- The word for a state on the wire. -/
def wire : Membership → String
  | .invited => "invite"
  | .joined => "join"
  | .left => "leave"
  | .banned => "ban"
  | .requested => "knock"

/-- The state that a word on the wire stands for. -/
def ofWire? (word : String) : Option Membership := all.find? fun m => m.wire == word

/-- A participant in one of these states still holds a chat open. -/
def isActive : Membership → Bool
  | .joined | .invited => true
  | _ => false

theorem mem_all (m : Membership) : m ∈ all := by cases m <;> decide

theorem ofWire?_wire (m : Membership) : ofWire? m.wire = some m := by cases m <;> decide

theorem wire_injective {a b : Membership} (h : a.wire = b.wire) : a = b := by
  have ha := ofWire?_wire a
  rw [h, ofWire?_wire] at ha
  exact (Option.some.inj ha).symm

theorem ofWire?_eq_some_iff {word : String} {m : Membership} :
    ofWire? word = some m ↔ m.wire = word := by
  constructor
  · intro h
    simpa using List.find?_some h
  · rintro rfl
    exact ofWire?_wire m

end Membership

end PairChat
