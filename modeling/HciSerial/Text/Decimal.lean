/-!
# Decimal numbers

Reading decimal numbers that must stay below a bound.

## Main Definitions

* `Decimal.natural`: an optional plus sign and digits.
* `Decimal.integer`: an optional sign and digits.
* `Decimal.Error`: why a text is no number.
-/

namespace HciSerial.Decimal

/-- Why a text is no number below the bound. -/
inductive Error where
  /-- The text is empty. -/
  | empty
  /-- A character is no digit. -/
  | invalidDigit
  /-- The number reaches the bound. -/
  | overflow
deriving DecidableEq

/-- The name of an error in diagnostics. -/
def Error.name : Error → String
  | empty => "Empty"
  | invalidDigit => "InvalidDigit"
  | overflow => "PosOverflow"

/-- The value of a digit. -/
def digit? (c : Char) : Option Nat :=
  if '0' ≤ c ∧ c ≤ '9' then some (c.toNat - 48) else none

/-- Reads digits from the left; the first fault decides. -/
def accumulate (bound : Nat) : Nat → List Char → Except Error Nat
  | value, [] => .ok value
  | value, c :: rest =>
    match digit? c with
    | none => .error .invalidDigit
    | some d =>
      if value * 10 + d < bound then accumulate bound (value * 10 + d) rest
      else .error .overflow

/-- At least one digit. -/
def unsigned (bound : Nat) : List Char → Except Error Nat
  | [] => .error .invalidDigit
  | digits => accumulate bound 0 digits

/-- A number below `bound`: an optional plus sign and at least one digit. -/
def natural (bound : Nat) : List Char → Except Error Nat
  | [] => .error .empty
  | '+' :: digits => unsigned bound digits
  | digits => unsigned bound digits

/-- A number at least `-bound` and below `bound`: an optional sign and at least one digit. -/
def integer (bound : Nat) : List Char → Except Error Int
  | '-' :: digits => (unsigned (bound + 1) digits).map fun value => -(value : Int)
  | text => (natural bound text).map Int.ofNat

end HciSerial.Decimal
