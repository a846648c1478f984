import Confluence.Labels
import Confluence.Sort.Order

/-!
# Binding a shape to its columns

A bound shape names columns by their positions in a row, counted from 0. Binding fails on the first
column that does not exist: those of the aggregates are looked up first, then the group columns,
then the sort columns.
-/

namespace Confluence

/-- An aggregate with the columns it is fed from: one, or for an average those of the sum and of
the count. -/
structure BoundAggregate where
  function : AggregateFunction
  output : Nat
  inputs : List Nat
deriving DecidableEq

structure BoundShape where
  columnCount : Nat
  groupBy : RowOrder
  orderBy : RowOrder
  aggregates : List BoundAggregate

/-- The position in a row of a column reference, counted from 0. -/
def LabelIndex.column (x : LabelIndex) (c : ColumnRef) : Except Failure Nat :=
  match x.resolve c with
  | .ok i => .ok (i - 1)
  | .error e => .error e

def SortTerm.bind (x : LabelIndex) (t : SortTerm ColumnRef) : Except Failure (SortTerm Nat) :=
  match x.column t.column with
  | .ok c => .ok ⟨c, t.direction, t.nulls⟩
  | .error e => .error e

/-- The column of the first derived aggregate with the given function. -/
def Aggregate.derivedColumn (x : LabelIndex) (a : Aggregate) (function : AggregateFunction) :
    Except Failure Nat :=
  match a.derived.find? fun d => d.function = function with
  | some d => x.column d.source
  | none => .error (.configuration
      ("AVG(" ++ a.output.display ++ ") is missing its derived " ++ function.name ++ " item"))

def Aggregate.bind (x : LabelIndex) (a : Aggregate) : Except Failure BoundAggregate := do
  let output ← x.column a.output
  if a.function = .avg then
    let sum ← a.derivedColumn x .sum
    let count ← a.derivedColumn x .count
    .ok ⟨a.function, output, [sum, count]⟩
  else
    let source ← x.column a.source
    .ok ⟨a.function, output, [source]⟩

namespace BoundShape

def bind (x : LabelIndex) (s : Shape) : Except Failure BoundShape := do
  let aggregates ← s.aggregates.mapM (Aggregate.bind x)
  let groupBy ← s.groupBy.mapM (SortTerm.bind x)
  let orderBy ← s.orderBy.mapM (SortTerm.bind x)
  .ok ⟨x.size, groupBy, orderBy, aggregates⟩

def isGrouped (b : BoundShape) : Bool := !b.groupBy.isEmpty || !b.aggregates.isEmpty

/-- The order of a grouped result: that of the statement, or of its groups if it has none. -/
def effectiveOrder (b : BoundShape) : RowOrder :=
  if b.orderBy.isEmpty then b.groupBy else b.orderBy

/-- Whether rows that arrive in the order of the result arrive group by group. -/
def arrivesGrouped (b : BoundShape) : Bool :=
  !b.groupBy.isEmpty && b.groupBy = b.effectiveOrder

end BoundShape

end Confluence
