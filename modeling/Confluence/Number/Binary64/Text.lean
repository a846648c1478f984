import Confluence.Number.Binary64.Basic
import Confluence.Number.Digits

/-!
# Decimal text of binary floating point

A finite datum is written with the fewest decimal digits that still round to it, and of those
with the digits nearest to it. `Binary64.shortest` finds them on decimal grids, from the coarse to
the fine, with exact arithmetic. Text is read as an exact fraction and rounded once.
-/

namespace Confluence.Binary64

/-- Which of two equally near digit strings is written. -/
inductive TieBreak where
  | up
  | even
deriving DecidableEq

/-- The numbers that round to `m * 2^k` units, in quarters of a unit: from `low` to `high`, the
ends included if the significand is even. Below a power of two the neighbour is half as far. -/
structure Neighbourhood where
  value : Nat
  low : Nat
  high : Nat
  closed : Bool

def neighbourhood (m k : Nat) : Neighbourhood where
  value := 4 * m * twoTo k
  low := 4 * m * twoTo k - (if m = twoTo 52 ∧ 0 < k then twoTo k else 2 * twoTo k)
  high := 4 * m * twoTo k + 2 * twoTo k
  closed := m % 2 = 0

/-- The multiple of `10^exponent` nearest to the value of a neighbourhood, if one lies in it.
Only the two multiples beside the value have to be tried. -/
def Neighbourhood.gridPoint? (b : Neighbourhood) (tie : TieBreak) (exponent : Int) : Option Nat :=
  let scale := tenTo (-exponent).toNat
  let step := 4 * unitsPerOne * tenTo exponent.toNat
  let value := b.value * scale
  let below := value / step
  let admits (d : Nat) : Bool :=
    if b.closed then b.low * scale ≤ d * step ∧ d * step ≤ b.high * scale
    else b.low * scale < d * step ∧ d * step < b.high * scale
  match admits below, admits (below + 1) with
  | false, false => none
  | true, false => some below
  | false, true => some (below + 1)
  | true, true =>
    let left := value - below * step
    let right := (below + 1) * step - value
    if left < right then some below
    else if right < left then some (below + 1)
    else match tie with
      | .up => some (below + 1)
      | .even => some (if below % 2 = 0 then below else below + 1)

/-- The first grid with a point in the neighbourhood, going from `10^exponent` down. -/
def Neighbourhood.firstGrid (b : Neighbourhood) (tie : TieBreak) : Nat → Int → Nat × Int
  | 0, exponent => (0, exponent)
  | fuel + 1, exponent =>
    match b.gridPoint? tie exponent with
    | some d => (d, exponent)
    | none => b.firstGrid tie fuel (exponent - 1)

/-- The shortest `(digits, exponent)` with `digits * 10^exponent` rounding to `m * 2^k` units, for
a positive `m`. The first grid tried is at least as coarse as the first power of ten above the
value; 17 digits are always enough. -/
def shortest (tie : TieBreak) (m k : Nat) : Nat × Int :=
  let top : Int := ((m.log2 + k : Nat) - 1074 : Int) * 30103 / 100000 + 2
  (neighbourhood m k).firstGrid tie 24 top

/-- Digits with a decimal point after `point` of them, padded with zeros on either side. Without
a digit after the point, `fraction` stands in its place. -/
def positional (digits : List Char) (point : Int) (fraction : List Char) : List Char :=
  if point ≤ 0 then
    '0' :: '.' :: (List.replicate (-point).toNat '0' ++ digits)
  else if digits.length ≤ point.toNat then
    digits ++ List.replicate (point.toNat - digits.length) '0' ++ fraction
  else digits.take point.toNat ++ '.' :: digits.drop point.toNat

/-- The text of a datum, never with an exponent: an integral value has no decimal point. -/
def text : Binary64 → List Char
  | .nan => ['N', 'a', 'N']
  | .infinity false => ['i', 'n', 'f']
  | .infinity true => ['-', 'i', 'n', 'f']
  | .finite negative m k _ =>
    let sign := if negative then ['-'] else []
    if m = 0 then sign ++ ['0']
    else
      let (digits, exponent) := shortest .up m k
      let ds := Digits.ofNat digits
      sign ++ positional ds (ds.length + exponent) []

/-! ### Reading -/

/-- Lower case of the ASCII letters; other characters stay. -/
def lowerAscii (c : Char) : Char :=
  if 'A' ≤ c ∧ c ≤ 'Z' then Char.ofNat (c.toNat + 32) else c

/-- The exponent after the mark `e` or `E`, an optional sign and digits. -/
def readExponent? : List Char → Option Int
  | [] => some 0
  | c :: r => if c = 'e' ∨ c = 'E' then Digits.toInt? r else none

/-- Digits, optionally with one decimal point before, among or after them, then an optional
exponent. -/
def readUnsigned? (negative : Bool) (s : List Char) : Option Binary64 :=
  let whole := s.takeWhile Digits.isDigit
  let rest := s.dropWhile Digits.isDigit
  let (fraction, rest) := match rest with
    | '.' :: r => (r.takeWhile Digits.isDigit, r.dropWhile Digits.isDigit)
    | r => ([], r)
  if whole = [] ∧ fraction = [] then none
  else (readExponent? rest).map fun e =>
    ofScientific negative (Digits.toNat (whole ++ fraction)) (e - fraction.length)

/-- An unsigned numeral, or one of the words for an infinity or NaN in any case. -/
def readMagnitude? (negative : Bool) (s : List Char) : Option Binary64 :=
  let word := String.ofList (s.map lowerAscii)
  if word = "inf" ∨ word = "infinity" then some (.infinity negative)
  else if word = "nan" then some .nan
  else readUnsigned? negative s

/-- The datum that a text writes, rounded correctly. -/
def ofText? : List Char → Option Binary64
  | '+' :: s => readMagnitude? false s
  | '-' :: s => readMagnitude? true s
  | s => readMagnitude? false s

end Confluence.Binary64
