import Confluence.Group.Accumulator
import Confluence.Group.Key
import Confluence.Shape.Bind

/-!
# Groups

A group keeps the first of its rows, into which the results of its aggregates are written at the
end. A table holds the groups of an unordered stream of rows, in the order in which they were
first seen.
-/

namespace Confluence

/-- How rows are grouped: the width of a row, its group columns and the aggregates. -/
structure Grouping where
  columnCount : Nat
  groupColumns : List Nat
  aggregates : List BoundAggregate
  averageScale : Decimal.Scale

def Grouping.ofShape (b : BoundShape) (averageScale : Decimal.Scale) : Grouping where
  columnCount := b.columnCount
  groupColumns := b.groupBy.columns
  aggregates := b.aggregates
  averageScale := averageScale

/-- The group key of a row. -/
def Grouping.keyOf (g : Grouping) (r : Row) : GroupKey := g.groupColumns.map r.cell

/-! ### Aggregates of one group -/

/-- Feed a row to accumulators, one for each aggregate. -/
def BoundAggregate.feed (r : Row) :
    List BoundAggregate → List Accumulator → Except Failure (List Accumulator)
  | a :: as, u :: us =>
    match u.merge (a.inputs.map r.cell) with
    | (.error e, _) => .error e
    | (.ok (), u) =>
      match feed r as us with
      | .error e => .error e
      | .ok us => .ok (u :: us)
  | _, us => .ok us

/-- Overwrite a cell of a row. -/
def Row.set? (r : Row) (column : Nat) (c : Cell) : Except Failure Row :=
  if column < r.length then .ok (r.set column c) else .error (.columnOutOfBounds (column + 1))

/-- Write the results of accumulators into a row, in the order of the aggregates. -/
def BoundAggregate.write (r : Row) : List BoundAggregate → List Accumulator → Except Failure Row
  | a :: as, u :: us =>
    match Row.set? r a.output u.result with
    | .error e => .error e
    | .ok r => write r as us
  | _, _ => .ok r

/-- A group that is still open: its first row and one accumulator for each aggregate. -/
structure Group where
  row : Row
  accumulators : List Accumulator

namespace Group

/-- Fold one more row into a group. -/
def feed (g : Grouping) (group : Group) (r : Row) : Except Failure Group :=
  match BoundAggregate.feed r g.aggregates group.accumulators with
  | .error e => .error e
  | .ok us => .ok { group with accumulators := us }

/-- The group of a first row. -/
def start (g : Grouping) (r : Row) : Except Failure Group :=
  feed g ⟨r, g.aggregates.map fun a => .new a.function g.averageScale⟩ r

/-- The row of a finished group. -/
def finish (g : Grouping) (group : Group) : Except Failure Row :=
  BoundAggregate.write group.row g.aggregates group.accumulators

end Group

/-! ### Tables -/

/-- Groups by key, in the order in which they were first seen, and the number of rows in them. -/
structure GroupTable where
  groups : List (GroupKey × Group) := []
  rows : Nat := 0

namespace GroupTable

/-- Whether a search for a key ends at an entry with an equal one: no more entries are to be passed
over, or none behind it has an equal key. -/
def endsAt (k : GroupKey) (skip : Nat) (rest : List (GroupKey × Group)) : Bool :=
  skip = 0 || rest.all fun p => !p.1.same k

/-- Fold a row into a group with its key, after passing over some of these, or start a new group at
the end if there is none. -/
def addTo (g : Grouping) (r : Row) :
    Nat → List (GroupKey × Group) → Except Failure (List (GroupKey × Group))
  | _, [] =>
    match Group.start g r with
    | .error e => .error e
    | .ok group => .ok [(g.keyOf r, group)]
  | skip, (key, group) :: rest =>
    if key.same (g.keyOf r) && endsAt (g.keyOf r) skip rest then
      match group.feed g r with
      | .error e => .error e
      | .ok group => .ok ((key, group) :: rest)
    else
      match addTo g r (if key.same (g.keyOf r) then skip - 1 else skip) rest with
      | .error e => .error e
      | .ok rest => .ok ((key, group) :: rest)

/-- Add a row to a table. -/
def add (probing : Probing) (g : Grouping) (t : GroupTable) (r : Row) : Except Failure GroupTable :=
  match addTo g r (probing (t.groups.map (·.1)) (g.keyOf r)) t.groups with
  | .error e => .error e
  | .ok groups => .ok ⟨groups, t.rows + 1⟩

/-- The rows of all groups, finished. -/
def finish (g : Grouping) (t : GroupTable) : Except Failure (List Row) :=
  t.groups.mapM fun (_, group) => group.finish g

theorem length_addTo_le {g : Grouping} {r : Row} {skip : Nat} {gs gs' : List (GroupKey × Group)}
    (h : addTo g r skip gs = .ok gs') : gs'.length ≤ gs.length + 1 := by
  induction gs generalizing skip gs' with
  | nil =>
    rw [addTo] at h
    split at h
    · cases h
    · cases h; simp
  | cons p rest ih =>
    obtain ⟨key, group⟩ := p
    rw [addTo] at h
    split at h
    · split at h
      · cases h
      · cases h; simp
    · split at h
      · cases h
      next rest' hr =>
        cases h
        have := ih hr
        simp only [List.length_cons]
        omega

theorem length_add_le {probing : Probing} {g : Grouping} {t t' : GroupTable} {r : Row}
    (h : t.add probing g r = .ok t') : t'.groups.length ≤ t.groups.length + 1 := by
  rw [add] at h
  split at h
  · cases h
  next gs hg => cases h; exact length_addTo_le hg

theorem mapM_length {α β ε : Type} {f : α → Except ε β} {xs : List α} {ys : List β}
    (h : xs.mapM f = .ok ys) : ys.length = xs.length := by
  induction xs generalizing ys with
  | nil => cases h; rfl
  | cons x xs ih =>
    rw [List.mapM_cons] at h
    cases hx : f x with
    | error e => rw [hx] at h; cases h
    | ok y =>
      cases hxs : xs.mapM f with
      | error e => rw [hx, hxs] at h; cases h
      | ok zs => rw [hx, hxs] at h; cases h; simp [ih hxs]

theorem length_finish {g : Grouping} {t : GroupTable} {rows : List Row}
    (h : t.finish g = .ok rows) : rows.length = t.groups.length :=
  mapM_length h

end GroupTable

end Confluence
