import HciSerial.Log.Pattern.Atom

/-!
# Brackets of patterns

Sets of characters between brackets, which may hold other brackets and the set operations
`&&`, `--` and `~~`.

## Main Definitions

* `Pattern.Bracket`: a bracket that is being read.
* `Pattern.bracket?`: reads a bracket and gives its depth.
-/

namespace HciSerial.Log.Pattern

/-- A bracket that is being read, by the depths of its parts. -/
structure Bracket where
  negated : Bool
  /-- What stands before the last set operation. -/
  operand : Option Nat := none
  /-- The members since then. -/
  members : List Nat := []
deriving DecidableEq

namespace Bracket

/-- The depth of a bracket's contents. -/
def contents (bracket : Bracket) : Nat :=
  match bracket.operand with
  | none => depthOf bracket.members
  | some operand => max operand (depthOf bracket.members) + 1

/-- The depth of a bracket that is closed here. -/
def depth (bracket : Bracket) : Nat :=
  bracket.contents + 1

/-- One more member. -/
def add (depth : Nat) (bracket : Bracket) : Bracket :=
  { bracket with members := depth :: bracket.members }

/-- A set operation after what was read so far. -/
def operate (bracket : Bracket) : Bracket :=
  { bracket with operand := some bracket.contents, members := [] }

end Bracket

/-- The names of classes of characters. -/
def classNames : List String :=
  ["alnum", "alpha", "ascii", "blank", "cntrl", "digit", "graph", "lower", "print", "punct",
    "space", "upper", "word", "xdigit"]

/-- A named class after its opening bracket, as in `[:alpha:]`: whether it is negated, and
the text after it. -/
def namedClass? : List Char → Option (Bool × List Char)
  | ':' :: text =>
    let (negated, text) :=
      match text with
      | '^' :: rest => (true, rest)
      | text => (false, text)
    match text.dropWhile (· ≠ ':') with
    | ':' :: ']' :: rest =>
      if classNames.contains (String.ofList (text.takeWhile (· ≠ ':'))) then some (negated, rest)
      else none
    | _ => none
  | _ => none

/-- The next atom in a bracket, where only a backslash is special. -/
def memberAtom? (mode : Mode) : List Char → Option (Atom × List Char)
  | [] => none
  | '\\' :: rest => escape? mode rest
  | c :: rest => some (.literal c false, rest)

/-- The character after a hyphen, beyond blanks and the mark of a comment. -/
def afterHyphen (mode : Mode) (text : List Char) : Option Char :=
  if mode.spaced then
    match text.dropWhile Blank.is with
    | '#' :: rest => (rest.dropWhile Blank.is).head?
    | rest => rest.head?
  else text.head?

/-- Passes a member: an atom, or a range of two literals in order. -/
def member? (mode : Mode) (text : List Char) : Option (List Char) :=
  match memberAtom? mode text with
  | none => none
  | some (first, rest) =>
    let single := if mode.admitsMember first then some (mode.skip rest) else none
    match mode.skip rest with
    | '-' :: rest =>
      if [some ']', some '-'].contains (afterHyphen mode rest) then single
      else
        match first, memberAtom? mode (mode.skip rest) with
        | .literal low _, some (.literal high _, rest) =>
          if low ≤ high ∧ mode.admitsMember first ∧ mode.admitsMember (.literal high false) then
            some rest
          else none
        | _, _ => none
    | _ => single

/-- The hyphens at the front of a bracket, which stand for themselves. -/
def hyphens (mode : Mode) : Nat → List Char → Nat × List Char
  | fuel + 1, '-' :: rest =>
    let (count, rest) := hyphens mode fuel (mode.skip rest)
    (count + 1, rest)
  | _, text => (0, text)

/-- The bracket that begins with a text, and the text of its further members.

At the front hyphens stand for themselves, and so does a closing bracket without any. -/
def openBracket? (mode : Mode) (text : List Char) : Option (Bracket × List Char) :=
  let (negated, text) :=
    match mode.skip text with
    | '^' :: rest => (true, mode.skip rest)
    | text => (false, text)
  let (literals, rest) :=
    match hyphens mode text.length text with
    | (0, ']' :: rest) => (1, rest)
    | found => found
  if literals = 0 ∨ mode.admitsMember (.literal '-' false) then
    some ({ negated, members := List.replicate literals 0 }, rest)
  else none

/-- Reads on in a bracket to the end of the outermost one. -/
def members? (mode : Mode) : Nat → Bracket → List Bracket → List Char → Option (Nat × List Char)
  | 0, _, _, _ => none
  | fuel + 1, current, outer, text =>
    match mode.skip text with
    | [] => none
    | '[' :: rest =>
      match namedClass? rest with
      | some (negated, rest) =>
        if mode.admitsClass negated then members? mode fuel (current.add 0) outer rest else none
      | none =>
        match openBracket? mode rest with
        | none => none
        | some (inner, rest) => members? mode fuel inner (current :: outer) rest
    | ']' :: rest =>
      if current.negated ∧ ¬mode.unicode then none
      else
        match outer with
        | [] => some (current.depth, rest)
        | parent :: outer => members? mode fuel (parent.add current.depth) outer rest
    | '&' :: '&' :: rest => members? mode fuel current.operate outer rest
    | '-' :: '-' :: rest => members? mode fuel current.operate outer rest
    | '~' :: '~' :: rest => members? mode fuel current.operate outer rest
    | text =>
      match member? mode text with
      | none => none
      | some rest => members? mode fuel (current.add 0) outer rest

/-- Reads a bracket after its opening and gives its depth.

Each step takes a character, so there are no more steps than characters. -/
def bracket? (mode : Mode) (text : List Char) : Option (Nat × List Char) :=
  match openBracket? mode text with
  | none => none
  | some (bracket, rest) => members? mode (rest.length + 1) bracket [] rest

end HciSerial.Log.Pattern
