/-!
# Hexadecimal text

Writing and reading bytes as pairs of hexadecimal digits.

## Main Definitions

* `Hex.render`: two lower-case digits a byte, without separators.
* `Hex.digits`: the text without separators and without the marks in front of tokens.
* `Hex.parse`: the bytes that a text stands for.

## Design Notes

Tokens are separated by blanks or colons, and each may begin with one `0x` or
`0X`.  Pairs are formed after the tokens have been joined, so a byte may be cut
by a separator.  A pair is read as a number with an optional sign in front, which
is why `+f` stands for fifteen.
-/

namespace HciSerial.Hex

/-- The lower-case digit of a number below sixteen. -/
def digit (value : Nat) : Char :=
  if value < 10 then Char.ofNat (48 + value) else Char.ofNat (87 + value)

/-- The two digits of a byte. -/
def pair (byte : UInt8) : List Char :=
  [digit (byte.toNat / 16), digit (byte.toNat % 16)]

/-- The digits of a byte list, as characters. -/
def renderChars (bytes : List UInt8) : List Char :=
  bytes.flatMap pair

/-- The digits of a byte list. -/
def render (bytes : List UInt8) : String :=
  String.ofList (renderChars bytes)

/-- The value of a digit of either case. -/
def value? (c : Char) : Option Nat :=
  if '0' ≤ c ∧ c ≤ '9' then some (c.toNat - 48)
  else if 'a' ≤ c ∧ c ≤ 'f' then some (c.toNat - 87)
  else if 'A' ≤ c ∧ c ≤ 'F' then some (c.toNat - 55)
  else none

/-- Whether a character ends a token. -/
def isSeparator (c : Char) : Bool :=
  c == ' ' || c == '\t' || c == '\n' || c == '\x0c' || c == '\r' || c == ':'

/-- The stretches between separators, empty ones included. -/
def tokens : List Char → List (List Char)
  | [] => [[]]
  | c :: rest =>
    if isSeparator c then [] :: tokens rest
    else
      match tokens rest with
      | [] => [[c]]
      | token :: more => (c :: token) :: more

/-- A token without the mark that may stand in front of it. -/
def stripMark : List Char → List Char
  | '0' :: 'x' :: rest => rest
  | '0' :: 'X' :: rest => rest
  | token => token

/-- The characters that are left once separators and marks are gone. -/
def digits (text : List Char) : List Char :=
  (tokens text).flatMap stripMark

/-- Why a text does not stand for bytes. -/
inductive Error where
  /-- A character outside ASCII is left. -/
  | notAscii
  /-- An odd number of characters is left. -/
  | oddDigits
  /-- Two characters that do not form a number. -/
  | badPair (first second : Char)
deriving DecidableEq

/-- The wording of an error. -/
def Error.message : Error → String
  | notAscii => "hex input must be ASCII"
  | oddDigits => "hex input has an odd number of digits"
  | badPair first second => "invalid hex byte: " ++ String.ofList [first, second]

/-- The byte of a pair: two digits, or a plus sign and one digit. -/
def pairValue? (first second : Char) : Option UInt8 :=
  if first = '+' then (value? second).map UInt8.ofNat
  else
    match value? first, value? second with
    | some high, some low => some (UInt8.ofNat (16 * high + low))
    | _, _ => none

/-- Reads pairs from the front; the first bad one is reported. -/
def parsePairs : List Char → Except Error (List UInt8)
  | first :: second :: rest =>
    match pairValue? first second with
    | none => .error (.badPair first second)
    | some byte => (parsePairs rest).map (byte :: ·)
  | _ => .ok []

/-- The bytes that a list of characters stands for. -/
def parseChars (text : List Char) : Except Error (List UInt8) :=
  let left := digits text
  if left.any (fun c => 128 ≤ c.toNat) then .error .notAscii
  else if left.length % 2 ≠ 0 then .error .oddDigits
  else parsePairs left

/-- The bytes that a text stands for.

Characters outside ASCII are reported first, then an odd number of digits, then
the first pair that is no number. -/
def parse (text : String) : Except Error (List UInt8) :=
  parseChars text.toList

end HciSerial.Hex
