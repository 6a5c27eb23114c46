import HciSerial.Text.Blank
import HciSerial.Text.Hex

/-!
# Atoms of patterns

The smallest parts of a regular expression, and the modes in which they are allowed.

## Main Definitions

* `Pattern.Mode`: how a stretch of a pattern is read.
* `Pattern.Mode.skip`: a text without the blanks and comments at its front.
* `Pattern.Atom`: a literal, an anchor, a boundary of words, a shorthand class, or the point.
* `Pattern.escape?`: the atom after a backslash.
* `Pattern.Mode.admits`, `Pattern.Mode.admitsMember`: whether an atom is allowed, by itself
  and in a bracket.

## Design Notes

Matching knows no properties of characters.  So in the mode for all of Unicode letters of
either case cannot be put together, and there are no boundaries of words and no shorthand
classes.  In the mode for bytes these exist, but nothing may match a part of a character.
-/

namespace HciSerial.Log.Pattern

/-- How a stretch of a pattern is read. -/
structure Mode where
  /-- Letters stand for both cases. -/
  ignoreCase : Bool := false
  /-- Classes range over all characters, not over bytes. -/
  unicode : Bool := true
  /-- Blanks and comments are left out. -/
  spaced : Bool := false
deriving DecidableEq

namespace Mode

/-- The letters that change modes, and the sign before those that are switched off. -/
def letters : List Char := ['i', 'm', 's', 'U', 'u', 'R', 'x', '-']

/-- A mode after some letters; a letter after the sign switches off. -/
def change (mode : Mode) (text : List Char) : Mode :=
  let on := text.takeWhile (· ≠ '-')
  let switch (letter : Char) (before : Bool) : Bool :=
    if text.contains letter then on.contains letter else before
  { ignoreCase := switch 'i' mode.ignoreCase
    unicode := switch 'u' mode.unicode
    spaced := switch 'x' mode.spaced }

/-- A text without the blanks and comments at its front; `comment` says whether it begins
in a comment, which lasts to the end of its line. -/
def skipBlanks (comment : Bool) : List Char → List Char
  | [] => []
  | c :: rest =>
    if comment then skipBlanks (c ≠ '\n') rest
    else if Blank.is c then skipBlanks false rest
    else if c = '#' then skipBlanks true rest
    else c :: rest

/-- A text without what the mode leaves out at its front. -/
def skip (mode : Mode) (text : List Char) : List Char :=
  if mode.spaced then skipBlanks false text else text

end Mode

/-- A smallest part of a pattern. -/
inductive Atom where
  /-- A character; `asByte` if two digits give its number. -/
  | literal (c : Char) (asByte : Bool)
  /-- A beginning or an end. -/
  | anchor
  /-- A boundary of words, or its absence. -/
  | wordBoundary
  /-- The digits, the blanks or the word characters, or all others. -/
  | shorthand (negated : Bool)
  /-- Any character. -/
  | point
deriving DecidableEq

/-- Hexadecimal digits, `count` of them, added to `value`; and the text after them. -/
def hexDigits? (mode : Mode) : Nat → Nat → List Char → Option (Nat × List Char)
  | 0, value, text => some (value, text)
  | _ + 1, _, [] => none
  | count + 1, value, c :: rest =>
    match Hex.value? c with
    | none => none
    | some digit => hexDigits? mode count (value * 16 + digit) (mode.skip rest)

/-- The character whose number the next `count` digits give. -/
def numbered? (mode : Mode) (count : Nat) (text : List Char) : Option (Atom × List Char) :=
  match hexDigits? mode count 0 (mode.skip text) with
  | none => none
  | some (number, rest) =>
    if number.isValidChar then some (.literal (Char.ofNat number) (count = 2), rest) else none

/-- The control characters that have a letter. -/
def control? (letter : Char) : Option Char :=
  if letter = 'a' then some '\x07'
  else if letter = 'f' then some '\x0c'
  else if letter = 't' then some '\t'
  else if letter = 'n' then some '\n'
  else if letter = 'r' then some '\r'
  else if letter = 'v' then some '\x0b'
  else none

/-- The atom after a backslash; letters and digits without a meaning give none. -/
def escape? (mode : Mode) : List Char → Option (Atom × List Char)
  | [] => none
  | c :: rest =>
    if c = 'x' then numbered? mode 2 rest
    else if c = 'u' then numbered? mode 4 rest
    else if c = 'U' then numbered? mode 8 rest
    else if ['d', 's', 'w'].contains c then some (.shorthand false, rest)
    else if ['D', 'S', 'W'].contains c then some (.shorthand true, rest)
    else if ['A', 'z'].contains c then some (.anchor, rest)
    else if ['b', 'B', '<', '>'].contains c then some (.wordBoundary, rest)
    else if c.isAlphanum ∨ 128 ≤ c.toNat then
      (control? c).map fun control => (.literal control false, rest)
    else some (.literal c false, rest)

namespace Mode

/-- Whether an atom is allowed by itself. -/
def admits (mode : Mode) : Atom → Bool
  | .literal c asByte =>
    if mode.unicode then !mode.ignoreCase else !(asByte && decide (128 ≤ c.toNat))
  | .anchor => true
  | .wordBoundary => !mode.unicode
  | .shorthand negated => !mode.unicode && !negated
  | .point => mode.unicode

/-- Whether a named class is allowed in a bracket. -/
def admitsClass (mode : Mode) (negated : Bool) : Bool :=
  if mode.unicode then !mode.ignoreCase else !negated

/-- Whether an atom is allowed in a bracket. -/
def admitsMember (mode : Mode) : Atom → Bool
  | .literal c _ => if mode.unicode then !mode.ignoreCase else decide (c.toNat < 128)
  | .shorthand negated => !mode.unicode && !negated
  | _ => false

end Mode

/-- How deep something is that holds things of the given depths; one thing stands for itself. -/
def depthOf : List Nat → Nat
  | [] => 0
  | [depth] => depth
  | depths => depths.foldl max 0 + 1

end HciSerial.Log.Pattern
