import Confluence.Calendar
import Confluence.Cell.Basic
import Confluence.Number.Binary64.Text

/-!
# Text of cells

How a cell is shown, which is also its value when it is read as text.
-/

namespace Confluence

/-- The two lower-case hexadecimal digits of a byte. -/
def hexByte (b : UInt8) : List Char :=
  let digit (n : Nat) : Char := if n < 10 then Char.ofNat (48 + n) else Char.ofNat (87 + n)
  [digit (b.toNat / 16), digit (b.toNat % 16)]

/-- The text of a cell. A day or an instant outside the calendar's range is shown as its
number. -/
def Cell.display : Cell → List Char
  | .null => ['N', 'U', 'L', 'L']
  | .boolean true => ['t', 'r', 'u', 'e']
  | .boolean false => ['f', 'a', 'l', 's', 'e']
  | .int32 n => Digits.ofInt n.val
  | .int64 n => Digits.ofInt n.val
  | .float64 x => x.text
  | .decimal d => d.text
  | .text s => s.toList
  | .date n => (Calendar.dayText? n.val).getD (Digits.ofInt n.val)
  | .timestamp n => (Calendar.instantText? n.val).getD (Digits.ofInt n.val)
  | .bytes bs => '\\' :: 'x' :: bs.flatMap hexByte

end Confluence
