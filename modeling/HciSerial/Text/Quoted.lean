import HciSerial.Text.Hidden

/-!
# Quoted text

Text between double quotes, as diagnostics show names and paths.

## Main Definitions

* `Quoted.escape`: one character of a quoted text.
* `Quoted.render`: the quoted form of a text.

## Design Notes

Quotes, backslashes and the usual control characters have short escapes; any other
character without a shape of its own (`Hidden.is`) is given by its number.
-/

namespace HciSerial.Quoted

/-- The lower-case hexadecimal digits of a number, at least one. -/
def hexNumber (number : Nat) : List Char :=
  Nat.toDigits 16 number

/-- One character of a quoted text. -/
def escape (c : Char) : List Char :=
  if c = '"' then ['\\', '"']
  else if c = '\\' then ['\\', '\\']
  else if c = '\n' then ['\\', 'n']
  else if c = '\r' then ['\\', 'r']
  else if c = '\t' then ['\\', 't']
  else if c = '\x00' then ['\\', '0']
  else if Hidden.is c then ['\\', 'u', '\x7b'] ++ hexNumber c.toNat ++ ['\x7d']
  else [c]

/-- The quoted form of a text. -/
def render (text : String) : String :=
  String.ofList ('"' :: text.toList.flatMap escape ++ ['"'])

/-- The quoted form of a text that may be missing. -/
def renderOption : Option String → String
  | none => "None"
  | some text => "Some(" ++ render text ++ ")"

end HciSerial.Quoted
