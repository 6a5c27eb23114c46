import HciSerial.Framing.ReceiveBuffer
import HciSerial.Text.Blank
import HciSerial.Text.Decimal

/-!
# Durations

Spans of time as the command line reads them and as messages show them.

## Main Definitions

* `Duration`: whole seconds and nanoseconds.
* `Duration.parse`: a number with the unit `ms`, `s` or none, which means seconds.
* `Duration.inspect`: the shortest decimal text, in the largest unit that fits.
-/

namespace HciSerial

/-- A span of time. -/
structure Duration where
  seconds : Nat
  /-- Less than a second. -/
  nanoseconds : Nat
deriving DecidableEq

namespace Duration

/-- A span of whole seconds. -/
def ofSeconds (count : Nat) : Duration := ⟨count, 0⟩

/-- A span of whole milliseconds. -/
def ofMilliseconds (count : Nat) : Duration := ⟨count / 1000, count % 1000 * 1000000⟩

/-- The length in nanoseconds. -/
def total (duration : Duration) : Nat :=
  duration.seconds * 1000000000 + duration.nanoseconds

/-! ### Reading -/

/-- Why a text is no duration. -/
inductive Error where
  /-- Nothing but blanks. -/
  | empty
  /-- The text, without the blanks around it, is no number with a unit. -/
  | invalid (text : String)
  /-- The duration is zero. -/
  | zero
deriving DecidableEq

/-- The wording of an error. -/
def Error.message : Error → String
  | empty => "duration must not be empty"
  | invalid text => "invalid duration value: " ++ text
  | zero => "duration must be greater than zero"

/-- Splits the unit off: the number, and whether it counts milliseconds. -/
def splitUnit (text : List Char) : List Char × Bool :=
  match text.reverse with
  | 's' :: 'm' :: number => (number.reverse, true)
  | 's' :: number => (number.reverse, false)
  | _ => (text, false)

/-- The duration that a list of characters without blanks around it stands for. -/
def parseTrimmed (text : List Char) : Except Error Duration :=
  if text.isEmpty then .error .empty
  else
    let (number, milliseconds) := splitUnit text
    match Decimal.natural wordCount number with
    | .error _ => .error (.invalid (String.ofList text))
    | .ok 0 => .error .zero
    | .ok value => .ok (if milliseconds then ofMilliseconds value else ofSeconds value)

/-- The duration that a text stands for. -/
def parse (text : String) : Except Error Duration :=
  parseTrimmed (Blank.trim text.toList)

/-! ### Writing -/

/-- The digits of a fraction of `width` places, without zeros at the end. -/
def fractionDigits (width fraction : Nat) : List Char :=
  let digits := (List.range width).map fun place =>
    Char.ofNat (48 + fraction / Nat.pow 10 (width - 1 - place) % 10)
  (digits.reverse.dropWhile (· == '0')).reverse

/-- A decimal number with a unit; the point is written only in front of digits. -/
def decimal (whole width fraction : Nat) (unit : String) : String :=
  let digits := fractionDigits width fraction
  toString whole ++ (if digits.isEmpty then "" else "." ++ String.ofList digits) ++ unit

/-- The text of a duration in messages. -/
def inspect (duration : Duration) : String :=
  let nanos := duration.nanoseconds
  if duration.seconds > 0 then decimal duration.seconds 9 nanos "s"
  else if nanos ≥ 1000000 then decimal (nanos / 1000000) 6 (nanos % 1000000) "ms"
  else if nanos ≥ 1000 then decimal (nanos / 1000) 3 (nanos % 1000) "µs"
  else decimal nanos 0 0 "ns"

end Duration

end HciSerial
