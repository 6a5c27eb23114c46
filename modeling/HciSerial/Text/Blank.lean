/-!
# Blanks

The characters that count as white space, and texts without blanks around them.

## Main Definitions

* `Blank.is`: the white space characters of Unicode.
* `Blank.trim`: a text without the blanks at its ends.
-/

namespace HciSerial.Blank

/-- Whether a character is white space. -/
def is (c : Char) : Bool :=
  let code := c.toNat
  (9 ≤ code && code ≤ 13) || code == 0x20 || code == 0x85 || code == 0xA0 || code == 0x1680 ||
    (0x2000 ≤ code && code ≤ 0x200A) || code == 0x2028 || code == 0x2029 || code == 0x202F ||
    code == 0x205F || code == 0x3000

/-- A text without the blanks at its front. -/
def trimFront (text : List Char) : List Char :=
  text.dropWhile is

/-- A text without the blanks at its ends. -/
def trim (text : List Char) : List Char :=
  (trimFront (trimFront text).reverse).reverse

end HciSerial.Blank
