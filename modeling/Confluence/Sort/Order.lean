import Confluence.Cell.Order
import Confluence.Shape.Basic

/-!
# Order of rows

A list of sort terms orders rows: the first term whose cells differ decides. NULL stands where its
term says, whatever the direction. Cells of two families cannot be compared by value and are
ordered by family; `TypeGuard` is there to refuse such rows.
-/

namespace Confluence

/-- The terms that rows are sorted by, each with the position of its column, counted from 0. -/
abbrev RowOrder := List (SortTerm Nat)

/-- The place of a cell's family among the families. -/
def Cell.familyRank (c : Cell) : Nat :=
  match c.family? with
  | none => 0
  | some .boolean => 1
  | some .numeric => 2
  | some .text => 3
  | some .date => 4
  | some .timestamp => 5
  | some .bytes => 6

/-- The order of NULL and a value. -/
def NullPlacement.nullToValue : NullPlacement → Ordering
  | .first => .lt
  | .last => .gt

/-- The order of two values in ascending direction, by family where they are not comparable. -/
def Cell.compareRanked (a b : Cell) : Ordering :=
  (a.compare? b).getD (Ord.compare a.familyRank b.familyRank)

namespace SortTerm

variable {κ : Type}

/-- The order of two cells under one term. -/
def compareCells (t : SortTerm κ) (a b : Cell) : Ordering :=
  match a.isNull, b.isNull with
  | true, true => .eq
  | true, false => t.nulls.nullToValue
  | false, true => t.nulls.nullToValue.swap
  | false, false =>
    match t.direction with
    | .asc => a.compareRanked b
    | .desc => (a.compareRanked b).swap

end SortTerm

namespace RowOrder

/-- The order of two rows. -/
def compareRows : RowOrder → Row → Row → Ordering
  | [], _, _ => .eq
  | t :: ts, a, b =>
    (t.compareCells (a.cell t.column) (b.cell t.column)).then (compareRows ts a b)

/-- The order of two sort keys, which hold one cell for each term. -/
def compareKeys : RowOrder → Row → Row → Ordering
  | [], _, _ => .eq
  | t :: ts, a, b =>
    (t.compareCells (a.headD .null) (b.headD .null)).then (compareKeys ts a.tail b.tail)

/-- The positions of the sort columns. -/
def columns (o : RowOrder) : List Nat := o.map (·.column)

/-- The sort key of a row. -/
def keyOf (o : RowOrder) (r : Row) : Row := o.map fun t => r.cell t.column

/-- Rows in order; rows that are equal under the order stay as they were. -/
def sort (o : RowOrder) (rows : List Row) : List Row :=
  rows.mergeSort fun a b => o.compareRows a b != .gt

end RowOrder

end Confluence
