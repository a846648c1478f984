import Confluence.Cell.Sum
import Confluence.Cell.Order
import Confluence.Failure
import Confluence.Shape.Basic

/-!
# Accumulators

Every shard has aggregated its own rows, so what is merged here are partial results: counts and
sums are added up, a maximum or minimum is the running extremum, and an average is the merged sum
divided by the merged count. NULL is passed over.
-/

namespace Confluence

/-- The running value of one aggregate; `none` while no value was seen. -/
inductive Accumulator where
  | count (total : Option Cell)
  | sum (total : Option Cell)
  | max (extremum : Option Cell)
  | min (extremum : Option Cell)
  | avg (sum count : Option Cell) (places : Decimal.Scale)

namespace Accumulator

def new (function : AggregateFunction) (averageScale : Decimal.Scale) : Accumulator :=
  match function with
  | .count => .count none
  | .sum => .sum none
  | .max => .max none
  | .min => .min none
  | .avg => .avg none none averageScale

def function : Accumulator → AggregateFunction
  | .count _ => .count
  | .sum _ => .sum
  | .max _ => .max
  | .min _ => .min
  | .avg .. => .avg

/-! ### Running values -/

/-- Add a value to a total. A value that cannot be added takes the total with it: what is left is
an empty total. -/
def addTo (total : Option Cell) (value : Cell) : Except Failure Unit × Option Cell :=
  if value.isNull then (.ok (), total)
  else if value.family? ≠ some .numeric then
    (.error (.typeMismatch "numeric" value.familyName), none)
  else
    match total with
    | none => (.ok (), some value)
    | some current =>
      match current.add? value with
      | some next => (.ok (), some next)
      | none => (.error (.typeMismatch "numeric" value.familyName), none)

/-- Replace an extremum by a value that lies on the wanted side of it. -/
def keepExtremum (wanted : Ordering) (extremum : Option Cell) (value : Cell) :
    Except Failure Unit × Option Cell :=
  if value.isNull then (.ok (), extremum)
  else
    match extremum with
    | none => (.ok (), some value)
    | some current =>
      match value.compare? current with
      | some o => (.ok (), some (if o = wanted then value else current))
      | none => (.error (.typeMismatch current.familyName value.familyName), extremum)

/-- The failure to hand an aggregate the right number of values. -/
def arityFailure (function : AggregateFunction) (expected got : Nat) : Failure :=
  .internalBug "E-AGG-001"
    (function.name ++ " expects " ++ toString expected ++ " input value(s)")
    ("got " ++ toString got)

/-- Fold in the partial results of one row: a sum and a count for an average, one value for every
other aggregate. -/
def merge (a : Accumulator) (inputs : List Cell) : Except Failure Unit × Accumulator :=
  match a, inputs with
  | .count t, [v] => let (r, t) := addTo t v; (r, .count t)
  | .sum t, [v] => let (r, t) := addTo t v; (r, .sum t)
  | .max t, [v] => let (r, t) := keepExtremum .gt t v; (r, .max t)
  | .min t, [v] => let (r, t) := keepExtremum .lt t v; (r, .min t)
  | .avg s c places, [v, n] =>
    match addTo s v with
    | (.error e, s) => (.error e, .avg s c places)
    | (.ok (), s) => let (r, c) := addTo c n; (r, .avg s c places)
  | .avg s c places, inputs => (.error (arityFailure .avg 2 inputs.length), .avg s c places)
  | a, inputs => (.error (arityFailure a.function 1 inputs.length), a)

theorem function_new (f : AggregateFunction) (averageScale : Decimal.Scale) :
    (new f averageScale).function = f := by
  cases f <;> rfl

theorem function_merge (a : Accumulator) (inputs : List Cell) :
    (a.merge inputs).2.function = a.function := by
  unfold merge
  split
  · rfl
  · rfl
  · rfl
  · rfl
  · split <;> rfl
  · rfl
  · rfl

/-! ### Results -/

/-- The count of an average as an integer, if it is one. -/
def exactCount? (c : Cell) : Option (Signed 128) :=
  c.toDecimal?.bind fun d => if d.scale.val = 0 then some d.mantissa else none

/-- Whether a count is zero, exactly or as a float. -/
def isZeroCount (c : Cell) : Bool :=
  (match exactCount? c with
    | some n => n.val = 0
    | none => false) ||
  match c.toBinary64? with
  | some x => x.isZero
  | none => false

/-- The quotient of an exact sum and an exact count, if there is one. -/
def exactAverage? (sum count : Cell) (places : Decimal.Scale) : Option Decimal :=
  sum.toDecimal?.bind fun d => (exactCount? count).bind fun n => d.divRound? n places

/-- The average. It is a decimal if sum and count are exact and the division does not overflow,
and a float otherwise; without a sum or with a count of zero it is NULL. -/
def average (sum count : Cell) (places : Decimal.Scale) : Cell :=
  if sum.isNull then .null
  else if isZeroCount count then .null
  else
    match exactAverage? sum count places with
    | some d => .decimal d
    | none =>
      match sum.toBinary64?, count.toBinary64? with
      | some s, some c => .float64 (s / c)
      | _, _ => .null

/-- The count zero. -/
def zeroCount : Cell := .int64 ⟨0, Signed.fits_zero 64⟩

/-- The value of an aggregate so far. Nothing counted is zero; all else without a value is NULL. -/
def result : Accumulator → Cell
  | .count t => t.getD zeroCount
  | .sum t => t.getD .null
  | .max t => t.getD .null
  | .min t => t.getD .null
  | .avg s c places => average (s.getD .null) (c.getD zeroCount) places

end Accumulator

end Confluence
