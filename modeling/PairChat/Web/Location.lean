import PairChat.Failure
import PairChat.Text.Numeral
import PairChat.Web.HostName
import PairChat.Web.Percent

/-!
# Locations: where a request goes

A `Location` is what is known of the location of a homeserver once it was taken apart: its scheme,
who is named in it, and the path and the query that all requests begin with.  `Location.ofText`
takes it apart and refuses what is no location; `Location.under` is the `Address` of a resource.

Segments `.` and `..` of a path are resolved before it is sent (`resolveDots`), and the characters
that a path or a query cannot hold are escaped (`escape`).
-/

namespace PairChat.Web

/-- A location without the slashes at its end. -/
def trimSlashes (url : String) : String :=
  String.ofList (url.toList.reverse.dropWhile (· == '/')).reverse

/-! ### Paths -/

/-- The text split at each `c`. -/
def splitAtEach (c : Char) : List Char → List (List Char)
  | [] => [[]]
  | d :: ds =>
    if d = c then [] :: splitAtEach c ds
    else match splitAtEach c ds with
      | [] => [[d]]
      | s :: ss => (d :: s) :: ss

/-- Segments with slashes between them. -/
def joinSegments : List (List Char) → List Char
  | [] => []
  | [s] => s
  | s :: ss => s ++ '/' :: joinSegments ss

/-- One more segment behind those before it, last first: a single dot adds nothing, two dots take
the last segment away, but not the root. -/
def addSegment (path : List (List Char)) (s : List Char) : List (List Char) :=
  if s = ['.'] then path
  else if s = ['.', '.'] then (if path = [[]] then path else path.drop 1)
  else s :: path

/-- A path without segments of dots. -/
def resolveDots (path : List Char) : List Char :=
  joinSegments ((splitAtEach '/' path).foldl addSegment []).reverse

/-- The marks that no query holds as they are. -/
def queryMarks : List Char := "\"#<>".toList

/-- The marks that no path holds as they are. -/
def pathMarks : List Char := queryMarks ++ "?`\x7b\x7d".toList

/-- A character that may have to be escaped, by the marks that have to. -/
def escapeChar (marks : List Char) (c : Char) : List Char :=
  if 0x20 < c.toNat && c.toNat < 0x7F && !marks.contains c then [c]
  else (String.utf8EncodeChar c).flatMap Percent.escape

/-- A text with the characters escaped that cannot stand as they are. -/
def escape (marks : List Char) (cs : List Char) : Except Failure (List Char) :=
  if Text.isWhole cs then .ok (cs.flatMap (escapeChar marks)) else .error .notEncodable

/-! ### Locations -/

/-- What is known of a location. -/
structure Location where
  /-- Is a scheme named? -/
  hasScheme : Bool
  /-- Is a host named, or anything with it? -/
  hasAuthority : Bool
  /-- Who is named in it. -/
  user : List Char
  path : List Char
  query : Option (List Char)
deriving DecidableEq, Repr

namespace Location

/-- How many characters a location may have. -/
def longest : Nat := 65536

/-- A character of a scheme after its first letter. -/
def isSchemeChar (c : Char) : Bool := c.isAlphanum || c == '+' || c == '-' || c == '.'

/-- The scheme before the first colon, and the rest. It may be empty. -/
def splitScheme (cs : List Char) : List Char × List Char :=
  let word := if cs.head?.any Char.isAlpha then cs.takeWhile isSchemeChar else []
  match cs.drop word.length with
  | ':' :: rest => (word, rest)
  | _ => ([], cs)

/-- Does the character end the part with the host? -/
def endsAuthority (c : Char) : Bool := c == '/' || c == '?' || c == '#'

/-- The part with the host, which begins with two slashes, and the rest. -/
def splitAuthority : List Char → List Char × List Char
  | '/' :: '/' :: cs =>
    (cs.takeWhile fun c => !endsAuthority c, cs.dropWhile fun c => !endsAuthority c)
  | cs => ([], cs)

/-- The text before the last occurrence of a character, if it occurs, and what follows it. -/
def splitLast (c : Char) (cs : List Char) : Option (List Char) × List Char :=
  let after := (cs.reverse.takeWhile (· != c)).reverse
  if after.length = cs.length then (none, cs)
  else (some (cs.take (cs.length - after.length - 1)), after)

/-- The host and the number of the socket behind it. A host in brackets may hold colons. -/
def splitSocket (cs : List Char) : List Char × List Char :=
  let inBrackets := if cs.head? == some '[' then splitLast ']' cs else (none, cs)
  let (host, rest) := match inBrackets with
    | (some inner, rest) => (inner ++ [']'], rest)
    | (none, _) => (cs.takeWhile (· != ':'), cs.dropWhile (· != ':'))
  (host, match rest with
    | ':' :: socket => socket
    | socket => socket)

/-- The sockets that are left out after their schemes. -/
def usualSockets : List (String × Int) :=
  [("ftp", 21), ("http", 80), ("https", 443), ("ws", 80), ("wss", 443)]

/-- Is a socket named that is not the usual one? It has to be a number. -/
def hasSocket (scheme socket : List Char) : Except Failure Bool :=
  if socket.isEmpty then .ok false
  else match Text.Numeral.integer? 10 socket with
    | some n => .ok (usualSockets.lookup (String.ofList (scheme.map Char.toLower)) != some n)
    | none => .error .badLocation

/-- Can the path begin as it does? Without a scheme and a host it could be taken for something
else. -/
def beginsWell (hasScheme hasAuthority : Bool) (path : List Char) : Bool :=
  hasScheme || hasAuthority || !("//".toList.isPrefixOf path || path.head? == some ':')

/-- Is the character a control character of ASCII? -/
def isControl (c : Char) : Bool := c.toNat < 0x20 || c.toNat == 0x7F

/-- **A location taken apart.** -/
def ofText (s : String) : Except Failure Location := do
  let cs := s.toList
  if longest < (Text.pieces cs).length || cs.any isControl then throw .badLocation
  let (scheme, rest) := splitScheme cs
  let (authority, rest) := splitAuthority rest
  let (user, place) := splitLast '@' authority
  let (host, socket) := splitSocket place
  let user := user.getD []
  if !Text.isWhole user then throw .notEncodable
  if !HostName.isValid host then throw .badLocation
  let hasSocket ← hasSocket scheme socket
  let hasScheme := !scheme.isEmpty
  let hasAuthority := !user.isEmpty || !host.isEmpty || hasSocket
  let endsPath (c : Char) : Bool := c == '?' || c == '#'
  let path := rest.takeWhile fun c => !endsPath c
  if !beginsWell hasScheme hasAuthority path then throw .badLocation
  let path ← escape pathMarks (if hasScheme || hasAuthority then resolveDots path else path)
  let query ← match rest.dropWhile fun c => !endsPath c with
    | '?' :: more => (escape queryMarks (more.takeWhile (· != '#'))).map some
    | _ => pure none
  if !Text.isWhole (rest.dropWhile (· != '#')) then throw .notEncodable
  return ⟨hasScheme, hasAuthority, user, path, query⟩

variable (l : Location)

/-! ### Who is named -/

/-- The name and the password of who is named in the location, if either is not empty. -/
def credentials? : Option (List Char × List Char) :=
  let name := Percent.read (l.user.takeWhile (· != ':'))
  let password := Percent.read ((l.user.dropWhile (· != ':')).drop 1)
  if name.isEmpty && password.isEmpty then none else some (name, password)

/-! ### Addresses -/

/-- The path of a location with its query. An empty path is that of the root. -/
def target : List Char :=
  (if l.path.isEmpty then ['/'] else l.path) ++ match l.query with
    | some query => '?' :: query
    | none => []

/-- What all resources lie under: it ends with a slash. -/
def base : List Char :=
  let target := l.target
  if target.getLast? == some '/' then target else target ++ ['/']

end Location

/-- Where a request goes. It can be sent only if a scheme is named. -/
structure Address where
  path : List Char
  query : Option (List Char)
  hasScheme : Bool
deriving DecidableEq, Repr

namespace Location

variable (l : Location)

/-- Would a text with a location in it be taken to begin with a scheme? -/
def seemsToHaveScheme (path : List Char) : Bool :=
  let word := path.takeWhile fun c => c != ':' && c != '/'
  !word.isEmpty && (path.drop word.length).head? == some ':'

/-- **The address of a resource.** It is put behind the path, or behind the query if the location
has one. -/
def under (resource : List Char) : Except Failure Address :=
  let whole := l.base ++ resource.dropWhile (· == '/')
  let path := whole.takeWhile (· != '?')
  let query := match whole.dropWhile (· != '?') with
    | _ :: query => some query
    | [] => none
  let path := if l.hasScheme || l.hasAuthority then resolveDots path else path
  let text := path ++ (query.map ('?' :: ·)).getD []
  if longest < resource.length || longest < path.length || longest < (query.getD []).length then
    .error .badLocation
  else .ok ⟨path, query, l.hasScheme || (!l.hasAuthority && seemsToHaveScheme text)⟩

/-! ### Queries -/

/-- A name or a value in a query. -/
def readField (cs : List Char) : String :=
  String.ofList (Percent.read (cs.map fun c => if c = '+' then ' ' else c))

/-- The names and values of a query. The first value of a name counts. -/
def fields (query : List Char) : List (String × String) :=
  let all := ((splitAtEach '&' query).filter fun f => !f.isEmpty).map fun f =>
    (readField (f.takeWhile (· != '=')), readField ((f.dropWhile (· != '=')).drop 1))
  all.foldl (fun fs (name, value) =>
    if (fs.lookup name).isSome then fs else fs ++ [(name, value)]) []

end Location

end PairChat.Web
