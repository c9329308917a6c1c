import PairChat.Text.Numeral

/-!
# Arguments: the words after a command

A command has parameters.  A parameter is given by its name, as `--name value` or `--name=value`; a
flag is given as `--name`, or as `--no-name` for its opposite, and may be given a truth value.  In a
name an underscore is as good as a hyphen.  Some parameters may also be given by position.
`Parameter.bind?` matches the words with the parameters, and there is no match if a word is left
over, if a parameter is given twice, or if one that is required is missing.

Words that begin with a hyphen are options, unless they are numbers or ranges of numbers
(`isNumeric`).  After a double hyphen no word is an option.
-/

namespace PairChat.CommandLine

/-- A parameter of a command. -/
structure Parameter where
  name : String
  isFlag : Bool := false
  isPositional : Bool := false
  isRequired : Bool := false
deriving DecidableEq, Repr

/-- What a parameter was given. -/
inductive Given where
  | value (s : String)
  | flag (b : Bool)
deriving DecidableEq, Repr

/-- The parameters that were given. -/
abbrev Bindings : Type := List (String × Given)

/-! ### Words -/

/-- The parts of a text between colons. -/
def splitColons : List Char → List (List Char)
  | [] => [[]]
  | c :: cs =>
    if c = ':' then [] :: splitColons cs
    else match splitColons cs with
      | [] => [[c]]
      | p :: ps => (c :: p) :: ps

/-- Is the text an integer, in any base? -/
def isInteger (cs : List Char) : Bool :=
  (Text.Numeral.integer? 10 cs).isSome || Text.Numeral.isLiteral cs

/-- Is the text a range: up to three integers with colons between them, any of which may be
missing? -/
def isRange (cs : List Char) : Bool :=
  let parts := splitColons cs
  2 ≤ parts.length && parts.length ≤ 3 && parts.all fun p => p.isEmpty || isInteger p

/-- Does the word stand for a number, or for a range of numbers? A mark of the imaginary alone does
not. -/
def isNumeric (cs : List Char) : Bool :=
  (Text.Numeral.isComplex cs && !Text.Numeral.isImaginaryMark (cs.drop 1))
    || Text.Numeral.isLiteral cs || isRange cs

/-- Is the word an option? -/
def isOption (word : String) : Bool := word.toList.head? == some '-' && !isNumeric word.toList

/-- The words for the truth values of flags. -/
def truthOf? (word : String) : Option Bool :=
  let word := String.ofList (word.toList.map Char.toLower)
  if ["yes", "y", "1", "true", "t"].contains word then some true
  else if ["no", "n", "0", "false", "f"].contains word then some false
  else none

/-- The parts of an option before and after the first equals sign, with hyphens in the name. -/
def splitOption (word : String) : String × Option String :=
  let cs := word.toList
  let name := cs.takeWhile (· != '=')
  (String.ofList (name.map fun c => if c = '_' then '-' else c),
    if name.length = cs.length then none else some (String.ofList (cs.drop (name.length + 1))))

/-! ### Matching -/

namespace Parameter

/-- The option of a parameter. -/
def option (p : Parameter) : String := "--" ++ p.name

/-- The option for the opposite of a flag. -/
def opposite (p : Parameter) : String := "--no-" ++ p.name

/-- What an option says about a flag: `given` itself, or the truth value that is attached. The
opposite of a flag is false if it is true. -/
def flagValue? (given : Bool) : Option String → Option Given
  | none => some (.flag given)
  | some word => (truthOf? word).map fun truth => .flag (truth == given)

/-- What an option says: the parameter, what it is given, and the words that are left. -/
def readOption (ps : List Parameter) (word : String) (rest : List String) :
    Option (Parameter × Given × List String) :=
  let (name, attached) := splitOption word
  match ps.find? fun p => p.option == name with
  | some p =>
    if p.isFlag then (flagValue? true attached).map fun given => (p, given, rest)
    else match attached, rest with
      | some v, _ => some (p, .value v, rest)
      | none, v :: rest => if isOption v then none else some (p, .value v, rest)
      | none, [] => none
  | none => match ps.find? fun p => p.isFlag && p.opposite == name with
    | some p => (flagValue? false attached).map fun given => (p, given, rest)
    | none => none

/-- One more binding, unless the parameter has one. -/
def bindNew (p : Parameter) (g : Given) (bs : Bindings) : Option Bindings :=
  if (bs.lookup p.name).isSome then none else some (bs ++ [(p.name, g)])

/-- The bindings of all options, and the other words. -/
def bindOptions (ps : List Parameter) :
    Nat → List String → Bindings → List String → Option (Bindings × List String)
  | 0, _, _, _ => none
  | _, [], bs, others => some (bs, others)
  | fuel + 1, word :: rest, bs, others =>
    if word = "--" then some (bs, others ++ rest)
    else if isOption word then do
      let (p, given, rest) ← readOption ps word rest
      bindOptions ps fuel rest (← bindNew p given bs) others
    else bindOptions ps fuel rest bs (others ++ [word])

/-- The bindings of words by position. Only parameters that were not given by name take one. -/
def bindWords : List Parameter → List String → Bindings → Option Bindings
  | _, [], bs => some bs
  | [], _ :: _, _ => none
  | p :: ps, word :: words, bs =>
    if (bs.lookup p.name).isSome then none else bindWords ps words (bs ++ [(p.name, .value word)])

/-- **The parameters that words give**, if the words fit. -/
def bind? (ps : List Parameter) (words : List String) : Option Bindings := do
  let (bs, others) ← bindOptions ps (words.length + 1) words [] []
  let bs ← bindWords (ps.filter (·.isPositional)) others bs
  if (ps.filter (·.isRequired)).all fun p => (bs.lookup p.name).isSome then some bs else none

end Parameter

namespace Bindings

variable (bs : Bindings)

/-- The value of a parameter, if it was given. -/
def value? (name : String) : Option String :=
  match bs.lookup name with
  | some (.value s) => some s
  | _ => none

/-- The value of a parameter that was given. -/
def value (name : String) : String := (bs.value? name).getD ""

/-- Was the flag given? -/
def flag (name : String) : Bool := bs.lookup name == some (.flag true)

end Bindings

end PairChat.CommandLine
