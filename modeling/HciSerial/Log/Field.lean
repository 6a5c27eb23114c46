import HciSerial.Log.Pattern.Basic
import HciSerial.Text.Binary64
import HciSerial.Text.Decimal

/-!
# Fields in filters

What a filter asks of a field: that it is there, or that it has a certain value.

## Main Definitions

* `FieldValue`: a value that a filter asks for.
* `FieldValue.parse?`: the value that a text stands for.
* `FieldCondition`: a field's name, with the value that is asked for.
* `FieldCondition.precedence`: the order among conditions.

## Design Notes

The text of a value is tried as a truth value, a natural number, an integer, a binary
floating-point number and a pattern, in this order.
-/

namespace HciSerial.Log

/-- The order of values of which some are missing: a missing one comes first. -/
def compareOption {α : Type} (order : α → α → Ordering) : Option α → Option α → Ordering
  | none, none => .eq
  | none, some _ => .lt
  | some _, none => .gt
  | some left, some right => order left right

/-- A value that a filter asks for. -/
inductive FieldValue where
  | truth (value : Bool)
  | real (value : Binary64)
  | natural (value : Nat)
  | integer (value : Int)
  /-- A regular expression for the text of the value. -/
  | pattern (text : String)
deriving DecidableEq

namespace FieldValue

/-- The value that a text stands for. -/
def parse? (text : List Char) : Option FieldValue :=
  if String.ofList text = "true" then some (.truth true)
  else if String.ofList text = "false" then some (.truth false)
  else
    match Decimal.natural UInt64.size text, Decimal.integer (UInt64.size / 2) text with
    | .ok value, _ => some (.natural value)
    | _, .ok value => some (.integer value)
    | _, _ =>
      match Binary64.parse? text with
      | some value => some (.real value)
      | none => if Pattern.isValid text then some (.pattern (String.ofList text)) else none

/-- The text of a value. -/
def text : FieldValue → String
  | truth value => if value then "true" else "false"
  | real value => value.text
  | natural value => toString value
  | integer value => toString value
  | pattern text => text

/-- The place of a kind of value among the kinds. -/
def kindRank : FieldValue → Nat
  | truth _ => 0
  | real _ => 1
  | natural _ => 2
  | integer _ => 3
  | pattern _ => 4

/-- The order of values: by kind, then within it. -/
def precedence : FieldValue → FieldValue → Ordering
  | truth left, truth right => compare left.toNat right.toNat
  | real left, real right => compare left.rank right.rank
  | natural left, natural right => compare left right
  | integer left, integer right => compare left right
  | pattern left, pattern right => compare left right
  | left, right => compare left.kindRank right.kindRank

end FieldValue

/-- What a filter asks of a field. -/
structure FieldCondition where
  name : String
  /-- The value that is asked for, if any. -/
  value : Option FieldValue := none
deriving DecidableEq

namespace FieldCondition

/-- The condition that a text stands for: a name, and a value after an equals sign.

What follows a second equals sign counts for nothing. -/
def parse? (text : List Char) : Option FieldCondition :=
  let name := String.ofList (text.takeWhile (· ≠ '='))
  match text.dropWhile (· ≠ '=') with
  | [] => some { name }
  | _ :: rest =>
    (FieldValue.parse? (rest.takeWhile (· ≠ '='))).map fun value => { name, value }

/-- The text of a condition. -/
def text (condition : FieldCondition) : String :=
  match condition.value with
  | none => condition.name
  | some value => condition.name ++ "=" ++ value.text

/-- The order of conditions: those on values come last, then by name, then by value. -/
def precedence (left right : FieldCondition) : Ordering :=
  (compare left.value.isSome.toNat right.value.isSome.toNat).then
    ((compare left.name right.name).then
      (compareOption FieldValue.precedence left.value right.value))

end FieldCondition

end HciSerial.Log
