import PairChat.Failure
import PairChat.Text.Blank

/-!
# Handles and the identifiers of accounts

A handle is the local part of an account identifier: the handle `alice` on the home server
`example.org` is the account `@alice:example.org`.  `UserId.qualify` builds identifiers,
`UserId.handle` and `UserId.server?` take them apart at the first `@` and at the first `:`.
`Handle.check` accepts the texts that survive the way there and back: no blank text, and neither of
the two separators.
-/

namespace PairChat

/-- The text after the first `c`, if `c` occurs. -/
def afterFirst? (c : Char) (cs : List Char) : Option (List Char) :=
  match cs.dropWhile (· != c) with
  | [] => none
  | _ :: rest => some rest

/-- The text before the first `c`, all of it if `c` does not occur. -/
def beforeFirst (c : Char) (cs : List Char) : List Char := cs.takeWhile (· != c)

namespace UserId

/-- The account of a handle on a home server. -/
def qualify (handle server : String) : String := "@" ++ handle ++ ":" ++ server

/-- The handle of an account, empty if the identifier has no `@`. -/
def handle (user : String) : String :=
  match afterFirst? '@' user.toList with
  | none => ""
  | some rest => String.ofList (beforeFirst ':' rest)

/-- The home server of an account, if the identifier names one. -/
def server? (user : String) : Option String :=
  match afterFirst? ':' user.toList with
  | none | some [] => none
  | some rest => some (String.ofList rest)

end UserId

namespace Handle

/-- Has the text one of the characters that take an identifier apart? -/
def isReserved (handle : String) : Bool := handle.toList.any fun c => c == '@' || c == ':'

/-- What keeps a text from being a handle. -/
def fault? (handle : String) : Option HandleFault :=
  if Text.isBlankText handle.toList then some .blank
  else if isReserved handle then some (.reserved handle)
  else none

/-- The handle itself, if it is one. -/
def check (handle : String) : Except Failure String :=
  match fault? handle with
  | some fault => .error (.badHandle fault)
  | none => .ok handle

end Handle

/-- The identifier of a chat is that of its room. -/
def chatId (room : String) : String := room

/-! ### Handles survive qualification -/

theorem afterFirst?_append {c : Char} {pre : List Char} (h : c ∉ pre) (rest : List Char) :
    afterFirst? c (pre ++ c :: rest) = some rest := by
  have : (pre ++ c :: rest).dropWhile (· != c) = c :: rest := by
    induction pre with
    | nil => simp
    | cons a pre ih =>
      have ha : a ≠ c := fun e => h (e ▸ List.mem_cons_self)
      simp [ha, ih fun hc => h (List.mem_cons_of_mem _ hc)]
  simp [afterFirst?, this]

theorem beforeFirst_append {c : Char} {pre : List Char} (h : c ∉ pre) (rest : List Char) :
    beforeFirst c (pre ++ c :: rest) = pre := by
  unfold beforeFirst
  induction pre with
  | nil => simp
  | cons a pre ih =>
    have ha : a ≠ c := fun e => h (e ▸ List.mem_cons_self)
    simp [ha, ih fun hc => h (List.mem_cons_of_mem _ hc)]

end PairChat
