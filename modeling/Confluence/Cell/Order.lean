import Confluence.Cell.Basic

/-!
# Order of cells

Cells of one family are ordered by value, whatever their types; cells of two families, and NULL,
are not ordered at all. Integers and decimals are compared with each other, and with floats that
are integers, exactly.
-/

namespace Confluence

/-- The order of a decimal and an integer. -/
def Decimal.compareInt (d : Decimal) (n : Int) : Ordering :=
  Ord.compare d.mantissa.val (n * (tenTo d.scale.val : Nat))

/-- The order of a decimal and a float. A float of magnitude `2^127` or more is beyond every
decimal. Between two integers the decimal is placed exactly against both of them, and only within
that unit its rounded value is compared with the float. -/
def Decimal.compareBinary64? (d : Decimal) (x : Binary64) : Option Ordering :=
  match x with
  | .nan => none
  | .infinity negative => some (if negative then .gt else .lt)
  | .finite negative m k h =>
    let magnitude := m * twoTo k
    if twoTo 127 * Binary64.unitsPerOne ≤ magnitude then some (if negative then .gt else .lt)
    else
      let units : Int := if negative then -(magnitude : Int) else magnitude
      let floor := units / (Binary64.unitsPerOne : Int)
      if units % (Binary64.unitsPerOne : Int) = 0 then some (d.compareInt floor)
      else if d.compareInt floor ≠ .gt then some .lt
      else if d.compareInt (floor + 1) ≠ .lt then some .gt
      else d.trim.toBinary64.compare? (.finite negative m k h)

namespace Cell

/-- The order of two numeric cells; NaN is comparable to nothing. -/
def compareNumeric? : Cell → Cell → Option Ordering
  | .float64 x, .float64 y => x.compare? y
  | .float64 x, b => b.toDecimal?.bind fun d => (d.compareBinary64? x).map Ordering.swap
  | a, .float64 y => a.toDecimal?.bind fun d => d.compareBinary64? y
  | a, b => a.toDecimal?.bind fun d => b.toDecimal?.map fun e => d.compare e

/-- The order of two cells of one family. Text and byte strings are ordered by their first
difference, byte by byte; for text that is the order of code points. -/
def compare? : Cell → Cell → Option Ordering
  | .boolean a, .boolean b => some (Ord.compare a b)
  | .text a, .text b => some (Ord.compare a.toList b.toList)
  | .date a, .date b => some (Ord.compare a.val b.val)
  | .timestamp a, .timestamp b => some (Ord.compare a.val b.val)
  | .bytes a, .bytes b => some (Ord.compare a b)
  | a, b =>
    if a.family? = some .numeric ∧ b.family? = some .numeric then compareNumeric? a b else none

/-- Equality of values, as SQL has it: NULL equals nothing, and neither does NaN. -/
def sameValue (a b : Cell) : Bool := compare? a b = some .eq

end Cell

end Confluence
