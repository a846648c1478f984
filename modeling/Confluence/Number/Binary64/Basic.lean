import Confluence.Number.Power

/-!
# Binary floating point with 53 bits

A finite value is an integer multiple of `2^(-1074)`, the unit of the format: a significand
below `2^53`, doubled `shift` times. Sums, products and quotients are formed exactly, as
fractions of natural numbers in that unit, and rounded once, to nearest with ties to the even
significand (`Binary64.nearest`). There is a single NaN.
-/

namespace Confluence

/-- Each value has one representation: the significand has its full 53 bits, unless no doubling
is left to take back. -/
def Binary64.Canonical (significand shift : Nat) : Prop :=
  significand < twoTo 53 ∧ shift ≤ 2045 ∧ (shift = 0 ∨ twoTo 52 ≤ significand)

instance (m k : Nat) : Decidable (Binary64.Canonical m k) :=
  inferInstanceAs (Decidable (_ ∧ _ ∧ _))

/-- A floating-point datum: not a number, an infinity, or `± significand * 2^shift` units of
`2^(-1074)`. Both zeros exist. -/
inductive Binary64 where
  | nan
  | infinity (negative : Bool)
  | finite (negative : Bool) (significand shift : Nat)
      (canonical : Binary64.Canonical significand shift)
deriving DecidableEq

namespace Binary64

/-- The number of units in one: every finite value is a whole number of `1 / unitsPerOne`. -/
def unitsPerOne : Nat := twoTo 1074

/-- The zero of the given sign. -/
def zero (negative : Bool) : Binary64 := .finite negative 0 0 (by decide)

instance : Inhabited Binary64 := ⟨zero false⟩

/-- The quotient `num / den` as a whole number: the nearest one, and of two equally near ones
the even one. -/
def divNearestEven (num den : Nat) : Nat :=
  let q := num / den
  let r := num % den
  if 2 * r < den then q
  else if den < 2 * r then q + 1
  else if q % 2 = 0 then q else q + 1

/-- The datum with the given parts; a magnitude that needs more doublings than the format has is
an infinity. -/
def pack (negative : Bool) (significand shift : Nat) : Binary64 :=
  if h : Canonical significand shift then .finite negative significand shift h
  else .infinity negative

/-- The datum nearest to `num / den` units, with the given sign. The shift is the one that
leaves 53 bits before the point; rounding up to `2^53` takes one more. -/
def nearest (negative : Bool) (num den : Nat) : Binary64 :=
  let shift := (num / den).log2 - 52
  let significand := divNearestEven num (den * twoTo shift)
  if significand = twoTo 53 then pack negative (twoTo 52) (shift + 1)
  else pack negative significand shift

/-- The datum nearest to the fraction `num / den`. -/
def ofFraction (negative : Bool) (num den : Nat) : Binary64 :=
  nearest negative (num * unitsPerOne) den

/-- The datum nearest to an integer. -/
def ofInt (n : Int) : Binary64 := ofFraction (n < 0) n.natAbs 1

/-- The datum nearest to `± digits * 10^exponent`. The two tests in front only bound the work:
from `10^311` on every value is an infinity, and below `10^(-399)` every value rounds to zero. -/
def ofScientific (negative : Bool) (digits : Nat) (exponent : Int) : Binary64 :=
  if digits = 0 then zero negative
  else if 310 < exponent then .infinity negative
  else if exponent + (digits.log2 : Int) < -400 then zero negative
  else ofFraction negative (digits * tenTo exponent.toNat) (tenTo (-exponent).toNat)

/-! ### Parts -/

def isNaN : Binary64 → Bool
  | .nan => true
  | _ => false

def isFinite : Binary64 → Bool
  | .finite .. => true
  | _ => false

def isInfinite : Binary64 → Bool
  | .infinity _ => true
  | _ => false

/-- The value of a finite datum, in units of `2^(-1074)`. -/
def units? : Binary64 → Option Int
  | .finite negative m k _ =>
    some (if negative then -((m * twoTo k : Nat) : Int) else ((m * twoTo k : Nat) : Int))
  | _ => none

/-- The greatest integer that is not above a finite datum. -/
def floor? (x : Binary64) : Option Int :=
  x.units?.map (· / (unitsPerOne : Int))

/-- The integer that a finite datum is, if it is one. -/
def integer? (x : Binary64) : Option Int :=
  x.units?.bind fun u =>
    if u % (unitsPerOne : Int) = 0 then some (u / (unitsPerOne : Int)) else none

def isZero : Binary64 → Bool
  | .finite _ 0 _ _ => true
  | _ => false

/-! ### Order -/

/-- The order of the values. Both zeros are equal, and NaN is comparable to nothing. -/
def compare? : Binary64 → Binary64 → Option Ordering
  | .nan, _ => none
  | _, .nan => none
  | .infinity a, .infinity b => some (compare b.toNat a.toNat)
  | .infinity a, .finite .. => some (if a then .lt else .gt)
  | .finite .., .infinity b => some (if b then .gt else .lt)
  | x@(.finite ..), y@(.finite ..) =>
    match x.units?, y.units? with
    | some u, some v => some (compare u v)
    | _, _ => none

/-! ### Arithmetic -/

def neg : Binary64 → Binary64
  | .nan => .nan
  | .infinity s => .infinity !s
  | .finite s m k h => .finite (!s) m k h

/-- The sum. A zero sum is negative only if both operands are. -/
def add : Binary64 → Binary64 → Binary64
  | .nan, _ => .nan
  | _, .nan => .nan
  | .infinity a, .infinity b => if a = b then .infinity a else .nan
  | .infinity a, .finite .. => .infinity a
  | .finite .., .infinity b => .infinity b
  | .finite a m k _, .finite b n l _ =>
    let x : Int := (m * twoTo k : Nat)
    let y : Int := (n * twoTo l : Nat)
    let sum := (if a then -x else x) + (if b then -y else y)
    if sum = 0 then zero (a && b) else nearest (sum < 0) sum.natAbs 1

/-- The product. -/
def mul : Binary64 → Binary64 → Binary64
  | .nan, _ => .nan
  | _, .nan => .nan
  | .infinity a, .infinity b => .infinity (a != b)
  | .infinity a, .finite b n _ _ => if n = 0 then .nan else .infinity (a != b)
  | .finite a m _ _, .infinity b => if m = 0 then .nan else .infinity (a != b)
  | .finite a m k _, .finite b n l _ =>
    nearest (a != b) (m * twoTo k * (n * twoTo l)) unitsPerOne

/-- The quotient. Dividing by a zero gives an infinity, or NaN for a zero dividend. -/
def div : Binary64 → Binary64 → Binary64
  | .nan, _ => .nan
  | _, .nan => .nan
  | .infinity _, .infinity _ => .nan
  | .infinity a, .finite b .. => .infinity (a != b)
  | .finite a .., .infinity b => zero (a != b)
  | .finite a m k _, .finite b n l _ =>
    if n = 0 then (if m = 0 then .nan else .infinity (a != b))
    else nearest (a != b) (m * twoTo k * unitsPerOne) (n * twoTo l)

instance : Neg Binary64 := ⟨neg⟩
instance : Add Binary64 := ⟨add⟩
instance : Mul Binary64 := ⟨mul⟩
instance : Div Binary64 := ⟨div⟩

/-- The loop of `pow`: `acc * base^n`, reading the bits of `n` from the lowest. The first
argument bounds the number of bits. -/
def powLoop : Nat → Binary64 → Binary64 → Nat → Binary64
  | 0, _, acc, _ => acc
  | bits + 1, base, acc, n =>
    let acc := if n % 2 = 1 then acc * base else acc
    if n / 2 = 0 then acc else powLoop bits (base * base) acc (n / 2)

/-- A power by repeated squaring, each product rounded. -/
def pow (base : Binary64) (n : Nat) : Binary64 :=
  powLoop (n.log2 + 1) base (ofInt 1) n

/-! ### Interchange format -/

/-- The 64 bits of the interchange format: sign, 11 bits of exponent, 52 bits of fraction. -/
def toBits : Binary64 → Nat
  | .nan => 0x7ff8000000000000
  | .infinity s => s.toNat * twoTo 63 + 0x7ff0000000000000
  | .finite s m k _ =>
    s.toNat * twoTo 63 + (if m < twoTo 52 then m else (k + 1) * twoTo 52 + (m - twoTo 52))

/-- The datum with the given bits; every pattern of a NaN is the one NaN. -/
def ofBits (bits : Nat) : Binary64 :=
  let negative := bits / twoTo 63 % 2 = 1
  let exponent := bits / twoTo 52 % twoTo 11
  let fraction := bits % twoTo 52
  if exponent = 2047 then (if fraction = 0 then .infinity negative else .nan)
  else if exponent = 0 then pack negative fraction 0
  else pack negative (twoTo 52 + fraction) (exponent - 1)

end Binary64

end Confluence
