import HciSerial.Log.Pattern.Bracket
import HciSerial.Text.Alphanumeric

/-!
# Patterns

Which texts are regular expressions that a filter accepts.

## Main Definitions

* `Pattern.Group`: a group that is being read.
* `Pattern.opening?`: what a parenthesis opens.
* `Pattern.isValid`: whether a text is a pattern.

## Design Notes

No record is ever matched against a pattern, since only spans can have the values that
patterns describe.  So reading keeps nothing but the depth of what was read, which has a
limit.  Counted repetitions cannot occur, because a closing brace ends the value.
-/

namespace HciSerial.Log.Pattern

/-- The greatest depth of a pattern. -/
def depthLimit : Nat := 250

/-- A group that is being read, by the depths of its parts. -/
structure Group where
  /-- The mode at the point that is reached. -/
  mode : Mode
  /-- The alternatives before the one being read. -/
  branches : List Nat := []
  /-- The items of the one being read, latest first; a change of mode is `none`. -/
  items : List (Option Nat) := []
deriving DecidableEq

namespace Group

/-- The depth of a group's contents. -/
def contents (group : Group) : Nat :=
  depthOf (depthOf (group.items.map (·.getD 0)) :: group.branches)

/-- One more item. -/
def add (depth : Nat) (group : Group) : Group :=
  { group with items := some depth :: group.items }

/-- Begins the next alternative. -/
def branch (group : Group) : Group :=
  { group with
    branches := depthOf (group.items.map (·.getD 0)) :: group.branches
    items := [] }

/-- Repeats the last item, if there is one that can be repeated. -/
def repeat? (group : Group) : Option Group :=
  match group.items with
  | some depth :: rest => some { group with items := some (depth + 1) :: rest }
  | _ => none

end Group

/-- What a parenthesis opens. -/
inductive Opening where
  /-- Nothing; it changes the mode of the group around it. -/
  | change (mode : Mode)
  /-- A group with a mode, which may have a name. -/
  | group (mode : Mode) (name : Option (List Char))
deriving DecidableEq

/-- Whether a text can be the name of a group. -/
def isGroupName : List Char → Bool
  | [] => false
  | first :: rest =>
    (first == '_' || Alphanumeric.isLetter first) &&
      rest.all fun c => ['_', '.', '[', ']'].contains c || Alphanumeric.is c

/-- A group with a name after its opening angle bracket. -/
def namedGroup? (mode : Mode) (text : List Char) : Option (Opening × List Char) :=
  let name := text.takeWhile (· ≠ '>')
  match text.dropWhile (· ≠ '>') with
  | [] => none
  | _ :: rest => if isGroupName name then some (.group mode (some name), rest) else none

/-- Whether some letters can change a mode: each once, and some after the sign. -/
def isModeChange (text : List Char) : Bool :=
  text.all Mode.letters.contains && decide text.Nodup && text.getLast? != some '-'

/-- A change of mode after its question mark, for a group or for what follows. -/
def modeChange? (mode : Mode) (text : List Char) : Option (Opening × List Char) :=
  let letters := text.takeWhile fun c => c ≠ ':' ∧ c ≠ ')'
  if isModeChange letters then
    match text.dropWhile fun c => c ≠ ':' ∧ c ≠ ')' with
    | ':' :: rest => some (.group (mode.change letters) none, rest)
    | ')' :: rest => if letters.isEmpty then none else some (.change (mode.change letters), rest)
    | _ => none
  else none

/-- What an opening parenthesis opens; there are no conditions on the surroundings. -/
def opening? (mode : Mode) : List Char → Option (Opening × List Char)
  | '?' :: '=' :: _ => none
  | '?' :: '!' :: _ => none
  | '?' :: '<' :: '=' :: _ => none
  | '?' :: '<' :: '!' :: _ => none
  | '?' :: 'P' :: '<' :: rest => namedGroup? mode rest
  | '?' :: '<' :: rest => namedGroup? mode rest
  | '?' :: rest => modeChange? mode rest
  | text => some (.group mode none, text)

/-- The next atom outside brackets. -/
def atom? (mode : Mode) : List Char → Option (Atom × List Char)
  | [] => none
  | '\\' :: rest => escape? mode rest
  | '.' :: rest => some (.point, rest)
  | '^' :: rest => some (.anchor, rest)
  | '$' :: rest => some (.anchor, rest)
  | c :: rest => some (.literal c false, rest)

/-- The text after a repetition sign, where a question mark belongs to the sign. -/
def afterRepetition : List Char → List Char
  | '?' :: rest => rest
  | text => text

/-- Reads a pattern to its end and gives its depth; `names` are the groups' names so far. -/
def read? : Nat → List (List Char) → Group → List Group → List Char → Option Nat
  | 0, _, _, _, _ => none
  | fuel + 1, names, current, outer, text =>
    match current.mode.skip text with
    | [] => if outer.isEmpty then some current.contents else none
    | '(' :: rest =>
      match opening? current.mode (current.mode.skip rest) with
      | none => none
      | some (.change mode, rest) =>
        read? fuel names { current with mode, items := none :: current.items } outer rest
      | some (.group mode none, rest) => read? fuel names { mode } (current :: outer) rest
      | some (.group mode (some name), rest) =>
        if names.contains name then none
        else read? fuel (name :: names) { mode } (current :: outer) rest
    | ')' :: rest =>
      match outer with
      | [] => none
      | parent :: outer => read? fuel names (parent.add (current.contents + 1)) outer rest
    | '|' :: rest => read? fuel names current.branch outer rest
    | '[' :: rest =>
      match bracket? current.mode rest with
      | none => none
      | some (depth, rest) => read? fuel names (current.add depth) outer rest
    | '\x7b' :: _ => none
    | c :: rest =>
      if ['?', '*', '+'].contains c then
        match current.repeat? with
        | none => none
        | some repeated => read? fuel names repeated outer (afterRepetition rest)
      else
        match atom? current.mode (c :: rest) with
        | none => none
        | some (atom, rest) =>
          if current.mode.admits atom then read? fuel names (current.add 0) outer rest else none

/-- Whether a text is a pattern.

Each step of the reader takes a character, so there are no more steps than characters. -/
def isValid (text : List Char) : Bool :=
  match read? (text.length + 1) [] { mode := {} } [] text with
  | none => false
  | some depth => decide (depth ≤ depthLimit)

end HciSerial.Log.Pattern
