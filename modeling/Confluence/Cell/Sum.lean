import Confluence.Cell.Basic

/-!
# Sums of cells

Sums stay exact as long as they can. Integers stay integers and overflow into decimals; a decimal
operand keeps the sum a decimal until its mantissa overflows, and then the sum is a float. A float
operand makes every sum a float.
-/

namespace Confluence

/-- The sum of two 64-bit integers fits in 128 bits. -/
theorem Signed.fits_add_64 (a b : Signed 64) : Signed.Fits 128 (a.val + b.val) := by
  have ha := a.fits
  have hb := b.fits
  have h64 : Signed.bound 64 = 9223372036854775808 := rfl
  have h128 : Signed.bound 128 = 170141183460469231731687303715884105728 := rfl
  unfold Signed.Fits at *
  omega

namespace Cell

/-- The sum of two integers, as a decimal once it leaves 64 bits. -/
def addIntegers (a b : Signed 64) : Cell :=
  match Signed.ofInt? 64 (a.val + b.val) with
  | some n => .int64 n
  | none => .decimal (.ofSigned ⟨a.val + b.val, Signed.fits_add_64 a b⟩ (Nat.le_refl 128))

/-- The sum of two exact numbers, as a float once the decimal sum overflows. -/
def addDecimals (a b : Decimal) : Cell :=
  match a.add? b with
  | some d => .decimal d
  | none => .float64 (a.trim.toBinary64 + b.trim.toBinary64)

/-- The sum of two cells; there is none unless both are numeric. -/
def add? : Cell → Cell → Option Cell
  | .float64 x, b => b.toBinary64?.map fun y => .float64 (x + y)
  | a, .float64 y => a.toBinary64?.map fun x => .float64 (x + y)
  | .decimal d, b => b.toDecimal?.map fun e => addDecimals d e
  | a, .decimal e => a.toDecimal?.map fun d => addDecimals d e
  | a, b => a.toInt64?.bind fun m => b.toInt64?.map fun n => addIntegers m n

end Cell

end Confluence
