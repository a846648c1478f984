import Confluence.Dialect

/-!
# Statement shapes

What a merge has to know of the statement whose results it joins: the columns it groups and sorts
by, its aggregates, and its limit. Columns are named by position or by label; positions count
from 1.
-/

namespace Confluence

inductive ColumnRef where
  | index (n : UInt64)
  | label (s : String)
deriving DecidableEq

/-- How a column reference is shown. -/
def ColumnRef.display : ColumnRef → String
  | .index n => "#" ++ toString n.toNat
  | .label s => s

inductive Direction where
  | asc
  | desc
deriving DecidableEq

/-- Where NULL stands among the values of a sorted column. -/
inductive NullPlacement where
  | first
  | last
deriving DecidableEq

/-- NULL counts as the smallest value unless a statement says otherwise. -/
def Direction.nulls : Direction → NullPlacement
  | .asc => .first
  | .desc => .last

/-- One column to sort or group by. Columns are of type `κ`: references before a shape is bound,
positions after. -/
structure SortTerm (κ : Type) where
  column : κ
  direction : Direction
  nulls : NullPlacement := direction.nulls
deriving DecidableEq

inductive AggregateFunction where
  | count
  | sum
  | max
  | min
  | avg
deriving DecidableEq

def AggregateFunction.name : AggregateFunction → String
  | .count => "COUNT"
  | .sum => "SUM"
  | .max => "MAX"
  | .min => "MIN"
  | .avg => "AVG"

/-- An aggregate of the select list. Its partial results are read from the column `source`, and
the merged result is written to the column `output`. An average cannot be formed from averages: it
reads the columns of the sum and the count among its `derived` aggregates. -/
structure Aggregate where
  function : AggregateFunction
  output : ColumnRef
  source : ColumnRef
  derived : List Aggregate

/-- An aggregate that is read from and written to one column. -/
def Aggregate.of (function : AggregateFunction) (column : ColumnRef) : Aggregate :=
  ⟨function, column, column, []⟩

/-- An average with the columns of its sum and its count. -/
def Aggregate.average (output sum count : ColumnRef) : Aggregate :=
  { Aggregate.of .avg output with derived := [.of .sum sum, .of .count count] }

/-- A bound on the row number. Whether the bound itself is admitted matters only to the dialects
that compare row numbers. -/
structure RowBound where
  value : UInt64
  inclusive : Bool := false
deriving DecidableEq

/-- The limit of a statement. Without a dialect of its own it follows the configuration. The label
names the column in which the statement selects the row number. -/
structure Limit where
  offset : Option RowBound := none
  rowCount : Option RowBound := none
  dialect : Option Dialect := none
  rowNumberLabel : Option String := none
deriving DecidableEq

/-- `LIMIT rowCount OFFSET offset`. -/
def Limit.native (offset rowCount : UInt64) : Limit :=
  { offset := some { value := offset }, rowCount := some { value := rowCount },
    dialect := some .native }

structure Shape where
  groupBy : List (SortTerm ColumnRef) := []
  orderBy : List (SortTerm ColumnRef) := []
  aggregates : List Aggregate := []
  limit : Option Limit := none

/-- Whether a statement groups or aggregates rows. -/
def Shape.isGrouped (s : Shape) : Bool := !s.groupBy.isEmpty || !s.aggregates.isEmpty

end Confluence
