/-!
# Decimal digits

Strings of ASCII digits, written and read without sign: the common part of every number that
this library reads or writes.
-/

namespace Confluence.Digits

/-- Whether a character is one of the ten ASCII digits. -/
def isDigit (c : Char) : Bool := '0' ≤ c && c ≤ '9'

/-- The value of a digit. -/
def value (c : Char) : Nat := c.toNat - '0'.toNat

/-- The digit of a value below ten. -/
def ofValue (n : Nat) : Char := Char.ofNat ('0'.toNat + n % 10)

/-- The number that a string of digits writes; the empty string writes zero. -/
def toNat (ds : List Char) : Nat := ds.foldl (fun n c => 10 * n + value c) 0

/-- The digits of `n` in front of `acc`; the first argument bounds their number. -/
def write : Nat → Nat → List Char → List Char
  | 0, _, acc => acc
  | fuel + 1, n, acc =>
    if n < 10 then ofValue n :: acc else write fuel (n / 10) (ofValue n :: acc)

/-- The digits of `n`, without leading zeros; zero has one digit. A number has no more decimal
digits than binary ones. -/
def ofNat (n : Nat) : List Char := write (n.log2 + 1) n []

/-- The text of an integer: a minus sign, if it is negative, and its digits. -/
def ofInt (n : Int) : List Char :=
  if n < 0 then '-' :: ofNat n.natAbs else ofNat n.natAbs

/-- The number that a non-empty string of digits writes. -/
def toNat? (ds : List Char) : Option Nat :=
  if ds ≠ [] ∧ ds.all isDigit then some (toNat ds) else none

/-- The integer that digits write after an optional sign, plus or minus. -/
def toInt? : List Char → Option Int
  | '+' :: ds => (toNat? ds).map Int.ofNat
  | '-' :: ds => (toNat? ds).map fun n => -(n : Int)
  | ds => (toNat? ds).map Int.ofNat

end Confluence.Digits
