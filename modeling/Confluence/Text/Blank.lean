/-!
# Blank characters

The characters with the Unicode property `White_Space`, and text without the blanks at its two
ends.
-/

namespace Confluence.Text

/-- The Unicode property `White_Space`. -/
def isBlank (c : Char) : Bool :=
  let n := c.toNat
  (0x9 ≤ n && n ≤ 0xD) || n = 0x20 || n = 0x85 || n = 0xA0 || n = 0x1680 ||
    (0x2000 ≤ n && n ≤ 0x200A) || n = 0x2028 || n = 0x2029 || n = 0x202F || n = 0x205F ||
    n = 0x3000

/-- Text without leading blanks. -/
def trimStart (s : List Char) : List Char := s.dropWhile isBlank

/-- Text without leading and trailing blanks. -/
def trim (s : List Char) : List Char := (trimStart (trimStart s).reverse).reverse

end Confluence.Text
