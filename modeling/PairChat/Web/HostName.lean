import PairChat.Text.Capital
import PairChat.Web.HostName.Label

/-!
# Host names

Which texts can name a host: four numbers with dots between them, an address in brackets, any text
in ASCII characters, and words in any script (`HostName.isDomain`).
-/

namespace PairChat.Web.HostName

/-- The text split at each character that satisfies `p`. -/
def splitBy (p : Char → Bool) : List Char → List (List Char)
  | [] => [[]]
  | c :: cs =>
    if p c then [] :: splitBy p cs
    else match splitBy p cs with
      | [] => [[c]]
      | w :: ws => (c :: w) :: ws

/-! ### Four numbers -/

/-- The states that a character leads to while four numbers are looked for: `2 n` before the first
digit of the number `n`, and `2 n + 1` after it. Any character may stand between two numbers. -/
def numberStep (states : List Nat) (c : Char) : List Nat :=
  let behind := states.filter (· % 2 == 1)
  ((if c.isDigit then states.map fun s => s / 2 * 2 + 1 else [])
    ++ (behind.filter (· < 7)).map (· + 1)).eraseDups

/-- Could the text be meant for four numbers? -/
def seemsNumeric (cs : List Char) : Bool := (cs.foldl numberStep [0]).contains 7

/-- Is the text a number up to 255 without zeros in front? -/
def isOctet (cs : List Char) : Bool :=
  !cs.isEmpty && cs.length ≤ 3 && cs.all Char.isDigit && (cs == ['0'] || cs.head? != some '0')
    && (String.ofList cs).toNat?.any (· ≤ 255)

/-- Is the text four numbers with dots between them? -/
def isNumeric (cs : List Char) : Bool :=
  let parts := splitBy (· == '.') cs
  parts.length == 4 && parts.all isOctet

/-! ### Addresses in brackets -/

/-- Is the text a group of up to four hexadecimal digits? -/
def isGroup (cs : List Char) : Bool :=
  !cs.isEmpty && cs.length ≤ 4
    && cs.all fun c => c.isDigit || ('a' ≤ c && c ≤ 'f') || ('A' ≤ c && c ≤ 'F')

/-- Are the groups those of an address? There are eight, or fewer with one empty group between two
others that stands for the rest; the address may begin or end with it. -/
def areGroups (groups : List (List Char)) : Bool :=
  let inner := (groups.drop 1).dropLast
  match inner.countP List.isEmpty with
  | 0 => groups.length == 8 && groups.all isGroup
  | 1 =>
    let first := groups.take (1 + (inner.takeWhile fun g => !g.isEmpty).length)
    let second := groups.drop (first.length + 1)
    let front := if first == [[]] then [] else first
    let back := if second == [[]] then [] else second
    (front ++ back).length < 8 && (front ++ back).all isGroup
  | _ => false

/-- Is the text an address with colons? It may end with four numbers, and a zone may follow behind a
percent sign. -/
def isAddress (cs : List Char) : Bool :=
  let address := cs.takeWhile (· != '%')
  let zone := cs.drop address.length
  let groups := splitBy (· == ':') address
  let last := groups.getLast?.getD []
  (zone.isEmpty || (1 < zone.length && !(zone.drop 1).contains '%'))
    && !cs.contains '/'
    && 3 ≤ groups.length
    && (if last.contains '.' then isNumeric last && areGroups (groups.dropLast ++ [['0'], ['0']])
      else areGroups groups)

/-! ### Words -/

/-- Does the character end a label? -/
def isDot (c : Char) : Bool := [0x2E, 0x3002, 0xFF0E, 0xFF61].contains c.toNat

/-- How many characters a name has at most as it is sent, without a dot at its end. -/
def longestName : Nat := 253

/-- Is the text a name of words? A dot may stand at its end. -/
def isDomain (cs : List Char) : Bool :=
  let labels := splitBy isDot cs
  let labels := if labels.getLast? == some [] then labels.dropLast else labels
  cs.length ≤ longestName + 1
    && match labels.mapM encodedLength? with
      | some lengths => lengths.foldl (· + ·) 0 + (lengths.length - 1) ≤ longestName
      | none => false

/-- **Can the text name a host?** No host may be named. -/
def isValid (cs : List Char) : Bool :=
  if cs.isEmpty then true
  else if seemsNumeric cs then isNumeric cs
  else if cs.head? == some '[' && cs.getLast? == some ']' && 1 < cs.length then
    isAddress (cs.drop 1).dropLast
  else cs.all (·.toNat < 0x80) || isDomain (Text.lowerAfter [] cs)

end PairChat.Web.HostName
