import HciSerial.Host.IoError

/-!
# Paths

How a system follows a path through its files, step by step.

## Main Definitions

* `FileNode`: what a path can lead to.
* `FileTree.follow`: the steps of a path from a place.
* `FileTree.lookup`: what a path leads to.

## Design Notes

A step needs a directory to start from, also one that stays or goes back.  So a way through
something that is no directory fails, even if a later step leads out of it, and an empty
step at the end asks for a directory.
-/

namespace HciSerial

/-- What a path leads to. -/
inductive FileNode where
  | directory
  /-- A device that is no terminal and has nothing to read. -/
  | device
  | regular (contents : List UInt8)
  | terminal
deriving DecidableEq

namespace FileTree

/-- A place among the files: the names on the way to it, innermost first. -/
abbrev Place := List String

/-- The files of a system: what is at each place. -/
abbrev Files := Place → Option FileNode

/-- The most bytes that a name can have. -/
def nameLimit : Nat := 255

/-- The number of bytes from which on a path is too long. -/
def pathLimit : Nat := 4096

/-- The parts of a text between slashes. -/
def steps : List Char → List (List Char)
  | [] => [[]]
  | c :: rest =>
    if c = '/' then [] :: steps rest
    else
      match steps rest with
      | [] => [[c]]
      | step :: more => (c :: step) :: more

/-- Follows steps from a place; the first one that fails decides. -/
def follow (files : Files) : Place → List (List Char) → Except IoError FileNode
  | place, [] =>
    match files place with
    | none => .error (.system 2)
    | some node => .ok node
  | place, step :: rest =>
    match files place with
    | none => .error (.system 2)
    | some .directory =>
      let name := String.ofList step
      if name = "" ∨ name = "." then follow files place rest
      else if name = ".." then follow files place.tail rest
      else if nameLimit < name.utf8ByteSize then .error (.system 36)
      else follow files (name :: place) rest
    | some _ => .error (.system 20)

/-- What a path leads to; one without a slash in front starts at `current`. -/
def lookup (files : Files) (current : Place) (path : String) : Except IoError FileNode :=
  if path.toList.contains '\x00' then
    .error (.custom .invalidInput "file name contained an unexpected NUL byte")
  else if path.isEmpty then .error (.system 2)
  else if pathLimit ≤ path.utf8ByteSize then .error (.system 36)
  else
    let start := if path.toList.head? = some '/' then [] else current
    follow files start (steps path.toList)

end FileTree

end HciSerial
