/-!
# Binary floating-point numbers

Numbers of 64 bits as they are written in decimal: the nearest number to a decimal text, and
the shortest decimal text that is nearest to a number.

## Main Definitions

* `Binary64`: a sign and a magnitude, or no number.
* `Binary64.nearest`: the magnitude nearest to a fraction.
* `Binary64.parse?`: reads a decimal text.
* `Binary64.shortest?`: the fewest digits that are nearest to a magnitude.
* `Binary64.text`: the decimal text of a number.

## Design Notes

The absolute values are counted in ascending order from zero to `infinity`, and a magnitude
is the number of smaller ones.  Absolute values are multiples of the least positive one,
`2 ^ -1074`; from `binade` on every `binade` magnitudes double the distance of neighbours.
All arithmetic is on natural numbers and exact.
-/

namespace HciSerial

namespace Binary64

/-- How many magnitudes share a distance to their neighbours. -/
def binade : Nat := Nat.pow 2 52

/-- The magnitude after all finite ones. -/
def infinity : Nat := 2047 * binade

end Binary64

/-- A binary floating-point number of 64 bits. -/
inductive Binary64 where
  /-- A number with its sign. -/
  | number (negative : Bool) (magnitude : Fin (Binary64.infinity + 1))
  /-- What is not a number. -/
  | notANumber
deriving DecidableEq

namespace Binary64

/-! ### Magnitudes -/

/-- How often the distance of neighbours doubled up to a magnitude. -/
def doublings (magnitude : Nat) : Nat :=
  magnitude / binade - 1

/-- An absolute value in units of the distance of its neighbours. -/
def significand (magnitude : Nat) : Nat :=
  if magnitude < binade then magnitude else binade + magnitude % binade

/-- A quotient rounded to the nearest natural number, a half to the even one. -/
def roundHalfEven (numerator denominator : Nat) : Nat :=
  let quotient := numerator / denominator
  match compare (2 * (numerator % denominator)) denominator with
  | .lt => quotient
  | .gt => quotient + 1
  | .eq => quotient + quotient % 2

/-- The magnitude nearest to a fraction. -/
def nearest (numerator denominator : Nat) : Fin (infinity + 1) :=
  let units := numerator * Nat.pow 2 1074
  let doublings := Nat.log2 (units / denominator) - 52
  let rounded := roundHalfEven units (denominator * Nat.pow 2 doublings)
  ⟨min (doublings * binade + rounded) infinity, Nat.lt_succ_of_le (Nat.min_le_right _ _)⟩

/-- The magnitude nearest to a number times a power of ten.

Exponents beyond the clamp give zero or infinity as the clamped ones do. -/
def ofDecimal (digits : Nat) (exponent : Int) : Fin (infinity + 1) :=
  let clamped := max (-(400 + Nat.log2 digits : Int)) (min exponent 400)
  nearest (digits * Nat.pow 10 clamped.toNat) (Nat.pow 10 (-clamped).toNat)

/-! ### Reading -/

/-- The number that decimal digits stand for. -/
def digitsValue (digits : List Char) : Nat :=
  digits.foldl (fun value c => value * 10 + (c.toNat - 48)) 0

/-- The sign in front of a text, and the rest. -/
def splitSign : List Char → Bool × List Char
  | '-' :: rest => (true, rest)
  | '+' :: rest => (false, rest)
  | text => (false, text)

/-- The exponent at the end of a number, if the text is one. -/
def exponent? : List Char → Option Int
  | [] => some 0
  | mark :: text =>
    let (negative, digits) := splitSign text
    if (mark = 'e' ∨ mark = 'E') ∧ digits ≠ [] ∧ digits.all Char.isDigit then
      some (if negative then -(digitsValue digits : Int) else digitsValue digits)
    else none

/-- The magnitude of digits, a point among or around them, and an exponent. -/
def magnitude? (text : List Char) : Option (Fin (infinity + 1)) :=
  let whole := text.takeWhile Char.isDigit
  let (fraction, rest) :=
    match text.dropWhile Char.isDigit with
    | '.' :: rest => (rest.takeWhile Char.isDigit, rest.dropWhile Char.isDigit)
    | rest => ([], rest)
  if (whole ++ fraction).isEmpty then none
  else
    (exponent? rest).map fun exponent =>
      ofDecimal (digitsValue (whole ++ fraction)) (exponent - fraction.length)

/-- The number that a text stands for. -/
def parse? (text : List Char) : Option Binary64 :=
  let (negative, rest) := splitSign text
  let name := String.ofList (rest.map Char.toLower)
  if name = "nan" then some .notANumber
  else if name = "inf" ∨ name = "infinity" then some (.number negative (Fin.last infinity))
  else (magnitude? rest).map (.number negative)

/-! ### Writing -/

/-- The multiple of a power of ten nearest to a finite magnitude, if one of the two around
it is nearer to this magnitude than to its neighbours.

A number half way to a neighbour belongs to the even magnitude, and of two multiples at
one distance the greater counts.  Everything is in quarters of the unit. -/
def onGrid? (magnitude : Nat) (power : Int) : Option Nat :=
  let quarter := Nat.pow 2 (doublings magnitude) * Nat.pow 10 (-power).toNat
  let step := Nat.pow 2 1076 * Nat.pow 10 power.toNat
  let value := 4 * significand magnitude * quarter
  let gapBelow := if magnitude % binade = 0 ∧ 0 < doublings magnitude then 1 else 2
  let slack := if magnitude % 2 = 0 then 0 else 1
  let below := value / step
  let fitsBelow := decide (value - gapBelow * quarter + slack ≤ below * step)
  let fitsAbove := decide ((below + 1) * step + slack ≤ value + 2 * quarter)
  match fitsBelow, fitsAbove with
  | true, true => some (if 2 * (value - below * step) < step then below else below + 1)
  | true, false => some below
  | false, true => some (below + 1)
  | false, false => none

/-- The fewest digits that are nearest to a finite magnitude, with their power of ten. -/
def shortest? (magnitude : Nat) : Option (Nat × Int) :=
  (List.range 634).findSome? fun (drop : Nat) =>
    let power : Int := 309 - (drop : Nat)
    (onGrid? magnitude power).map (·, power)

/-- A number times a power of ten, written without an exponent. -/
def positional (digits : Nat) (power : Int) : List Char :=
  let shown := Nat.toDigits 10 digits
  if 0 ≤ power then shown ++ List.replicate power.toNat '0'
  else
    let places := (-power).toNat
    let padded := List.replicate (places + 1 - shown.length) '0' ++ shown
    padded.take (padded.length - places) ++ '.' :: padded.drop (padded.length - places)

/-- The decimal text of a magnitude. -/
def magnitudeText (magnitude : Nat) : List Char :=
  if magnitude = 0 then ['0']
  else if magnitude = infinity then ['i', 'n', 'f']
  else
    match shortest? magnitude with
    | some (digits, power) => positional digits power
    | none => []

/-- The decimal text of a number. -/
def text : Binary64 → String
  | .notANumber => "NaN"
  | .number negative magnitude =>
    String.ofList ((if negative then ['-'] else []) ++ magnitudeText magnitude)

/-- The place of a number among all numbers; both zeros share one, and what is no number
comes last. -/
def rank : Binary64 → Int
  | .notANumber => infinity + 1
  | .number true magnitude => -(magnitude : Nat)
  | .number false magnitude => (magnitude : Nat)

end Binary64

end HciSerial
