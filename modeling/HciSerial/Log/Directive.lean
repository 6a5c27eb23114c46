import HciSerial.Log.Field
import HciSerial.Log.Record
import HciSerial.Text.Alphanumeric
import HciSerial.Text.Blank

/-!
# Directives of filters

One part of a filter: which records up to which level.

## Main Definitions

* `Directive`: a target, a span, conditions on fields, and a level.
* `Directive.parse`: reads a directive.
* `Directive.text`: the text of a directive.
* `Directive.precedence`: the order in which directives are tried.
* `Directive.concerns`: whether a directive decides about a record.

## Design Notes

Parts of a directive are found by counting bytes of UTF-8 in the text without the blanks
around it, and are cut from the text with them.  So blanks in front shift all parts, and a
cut that falls inside a character has no result at all.
-/

namespace HciSerial.Log

/-- One part of a filter text. -/
structure Directive where
  /-- The path that sources must begin with, if any. -/
  target : Option String := none
  span : Option String := none
  /-- What is asked of a record's fields. -/
  fields : List FieldCondition := []
  /-- The most detailed level that passes, `none` for nothing. -/
  level : Option Level := some .trace
deriving DecidableEq

/-- The level that a name or number stands for; the inner `none` lets nothing pass. -/
def parseLevel? (text : List Char) : Option (Option Level) :=
  match Decimal.natural UInt64.size text with
  | .ok 0 => some none
  | .ok 1 => some (some .error)
  | .ok 2 => some (some .warn)
  | .ok 3 => some (some .info)
  | .ok 4 => some (some .debug)
  | .ok 5 => some (some .trace)
  | .ok _ => none
  | .error _ =>
    let name := String.ofList (text.map Char.toLower)
    if name = "" then some (some .error)
    else if name = "off" then some none
    else (Level.all.find? (·.name = name)).map some

namespace Directive

/-- Why a text is no directive. -/
inductive Error where
  /-- It is not written as directives are. -/
  | malformed
  /-- A part begins or ends inside a character. -/
  | splitCharacter
deriving DecidableEq

/-! ### Cutting parts -/

/-- A text without its first `count` bytes, unless these end inside a character. -/
def dropBytes? : Nat → List Char → Option (List Char)
  | 0, text => some text
  | _ + 1, [] => none
  | count + 1, c :: rest =>
    if c.utf8Size ≤ count + 1 then dropBytes? (count + 1 - c.utf8Size) rest else none

/-- The first `count` bytes of a text, unless these end inside a character. -/
def takeBytes? : Nat → List Char → Option (List Char)
  | 0, _ => some []
  | _ + 1, [] => none
  | count + 1, c :: rest =>
    if c.utf8Size ≤ count + 1 then (takeBytes? (count + 1 - c.utf8Size) rest).map (c :: ·)
    else none

/-- A part that has been cut, or else the reason that there is none. -/
def ofCut : Option (List Char) → Except Error (List Char)
  | some part => .ok part
  | none => .error .splitCharacter

/-- The text between two byte positions. -/
def slice (text : List Char) (first last : Nat) : Except Error (List Char) :=
  ofCut ((dropBytes? first text).bind (takeBytes? (last - first)))

/-- The text from a byte position on. -/
def sliceFrom (text : List Char) (first : Nat) : Except Error (List Char) :=
  ofCut (dropBytes? first text)

/-! ### Reading -/

/-- What the reader of a directive is inside of, with the position where it began. -/
inductive Reading where
  | start
  | levelOrTarget (start : Nat)
  | span (start : Nat)
  | field (start : Nat)
  | fields
  | target
  | level (start : Nat)
deriving DecidableEq

/-- Whether a directive can begin with a character. -/
def isFirst (c : Char) : Bool :=
  ['-', ':', '_'].contains c || Alphanumeric.is c

/-- A condition on a field, which must have a text. -/
def addField (directive : Directive) (field : List Char) : Except Error Directive :=
  if field.isEmpty then .error .malformed
  else
    match FieldCondition.parse? field with
    | none => .error .malformed
    | some condition => .ok { directive with fields := directive.fields ++ [condition] }

/-- One character of a directive at its position; parts are cut from `text`. -/
def read (text : List Char) (state : Reading × Directive) (position : Nat) (c : Char) :
    Except Error (Reading × Directive) :=
  let (reading, directive) := state
  match reading with
  | .start =>
    if c = '[' then .ok (.span (position + 1), directive)
    else if isFirst c then .ok (.levelOrTarget position, directive)
    else .error .malformed
  | .levelOrTarget start =>
    if c = '=' ∨ c = '[' then do
      let target := some (String.ofList (← slice text start position))
      let next := if c = '=' then Reading.level (position + 1) else .span (position + 1)
      return (next, { directive with target })
    else .ok (.levelOrTarget start, directive)
  | .target =>
    if c = '=' then .ok (.level (position + 1), directive) else .error .malformed
  | .span start =>
    if c = ']' then do
      let span := some (String.ofList (← slice text start position))
      return (.target, { directive with span })
    else if c = '\x7b' then do
      let name ← slice text start position
      let span := if name.isEmpty then none else some (String.ofList name)
      return (.field (position + 1), { directive with span })
    else .ok (.span start, directive)
  | .field start =>
    if c = '\x7d' ∨ c = ',' then do
      let directive ← directive.addField (← slice text start position)
      return (if c = ',' then .field (position + 1) else .fields, directive)
    else .ok (.field start, directive)
  | .fields => if c = ']' then .ok (.target, directive) else .error .malformed
  | .level start => .ok (.level start, directive)

/-- The directive when its text ends. -/
def finish (text : List Char) : Reading × Directive → Except Error Directive
  | (.levelOrTarget start, directive) => do
    let rest ← sliceFrom text start
    if rest.isEmpty then return { directive with target := none, level := some .trace }
    else
      match parseLevel? rest with
      | some level => return { directive with target := none, level }
      | none => return { directive with target := some (String.ofList rest), level := some .trace }
  | (.level start, directive) => do
    let rest ← sliceFrom text start
    if rest.isEmpty then return { directive with level := some .trace }
    else
      match parseLevel? rest with
      | some level => return { directive with level }
      | none => .error .malformed
  | (.target, directive) => .ok directive
  | _ => .error .malformed

/-- Reads characters from a position on. -/
def readAll (text : List Char) :
    Nat → Reading × Directive → List Char → Except Error Directive
  | _, state, [] => finish text state
  | position, state, c :: rest =>
    match read text state position c with
    | .error error => .error error
    | .ok next => readAll text (position + c.utf8Size) next rest

/-- The directive that a text stands for. -/
def parse (text : List Char) : Except Error Directive :=
  readAll text 0 (.start, {}) (Blank.trim text)

/-! ### Writing -/

/-- The text of a directive. -/
def text (directive : Directive) : String :=
  let bracket :=
    if directive.span.isNone ∧ directive.fields.isEmpty then ""
    else "[" ++ directive.span.getD "" ++
      (if directive.fields.isEmpty then ""
        else "\x7b" ++ String.intercalate "," (directive.fields.map FieldCondition.text) ++ "\x7d")
      ++ "]"
  let head := directive.target.getD "" ++ bracket
  let level := (directive.level.map Level.name).getD "off"
  if directive.target.isNone ∧ bracket = "" then level else head ++ "=" ++ level

/-! ### Order -/

/-- The order of lists by their first difference. -/
def compareList {α : Type} (order : α → α → Ordering) : List α → List α → Ordering
  | [], [] => .eq
  | [], _ :: _ => .lt
  | _ :: _, [] => .gt
  | left :: lefts, right :: rights => (order left right).then (compareList order lefts rights)

/-- The order in which directives are tried: the more specific of two comes first. -/
def precedence (left right : Directive) : Ordering :=
  let bySize (a b : String) := compare a.utf8ByteSize b.utf8ByteSize
  ((compareOption bySize left.target right.target).then
    ((compare left.span.isSome.toNat right.span.isSome.toNat).then
      ((compare left.fields.length right.fields.length).then
        ((compareOption compare left.target right.target).then
          ((compareOption compare left.span right.span).then
            (compareList FieldCondition.precedence left.fields right.fields)))))).swap

/-- Puts a directive in its place; it replaces one of the same rank. -/
def insert (directive : Directive) : List Directive → List Directive
  | [] => [directive]
  | head :: rest =>
    match precedence directive head with
    | .lt => directive :: head :: rest
    | .eq => directive :: rest
    | .gt => head :: insert directive rest

/-! ### Use -/

/-- Whether a directive names a span or asks for fields. -/
def isDynamic (directive : Directive) : Bool :=
  directive.span.isSome || !directive.fields.isEmpty

/-- Whether a directive can decide about records: no span and no field values. -/
def isStatic (directive : Directive) : Bool :=
  directive.span.isNone && directive.fields.all (·.value.isNone)

/-- Whether a directive concerns a record. -/
def concerns (directive : Directive) (record : Record) : Bool :=
  (match directive.target with
    | none => true
    | some target => target.toList.isPrefixOf record.source.path.toList) &&
  directive.fields.all fun field =>
    field.name = "message" || record.fields.any (·.1 = field.name)

end Directive

end HciSerial.Log
