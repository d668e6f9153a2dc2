/-! White space: the blanks and line breaks of all scripts. -/

namespace ClockWarden.Text

/-- Whether a character is white space. -/
def isBlank (c : Char) : Bool :=
  let n := c.toNat
  (9 ≤ n && n ≤ 13) || n = 0x20 || n = 0x85 || n = 0xA0 || n = 0x1680 || (0x2000 ≤ n && n ≤ 0x200A) ||
    n = 0x2028 || n = 0x2029 || n = 0x202F || n = 0x205F || n = 0x3000

/-- The text without the white space at its front. -/
def trimStart (text : List Char) : List Char := text.dropWhile isBlank

/-- The text without the white space at both ends. -/
def trim (text : List Char) : List Char := (trimStart (trimStart text).reverse).reverse

end ClockWarden.Text
