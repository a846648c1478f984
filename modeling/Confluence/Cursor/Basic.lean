import Confluence.Labels
import Confluence.Merge.Strategy
import Confluence.Window

/-!
# Merged cursors

A merged cursor moves forward over the joined rows of its shards. It owns the shards: each of them
is closed once, by `close`, by a failure while advancing, by a transient failure while reading, or
when the cursor is dropped. A merged cursor is a row source itself, so merges can be nested.
-/

namespace Confluence

/-- The life of a cursor. -/
inductive Phase where
  | beforeFirst
  | onRow
  | exhausted
  | closed
deriving DecidableEq

structure Cursor (σ : Type) where
  shards : List (Shard σ)
  labels : LabelIndex
  /-- The number of columns that the shards have. -/
  sourceColumns : Nat
  merger : Merger
  pagination : Option Pagination
  /-- The column that shows the row number, counted from 1. -/
  rowNumberColumn : Option Nat
  phase : Phase := .beforeFirst
  lastNull : Bool := false
  rowsEmitted : Nat := 0
  sourcesClosed : Nat := 0

namespace Cursor

variable {σ : Type} [RowSource σ]

def columnCount (c : Cursor σ) : Nat := c.labels.size

def columnLabel (c : Cursor σ) (i : Nat) : Except Failure String :=
  match c.labels.label? i with
  | some l => .ok l
  | none => .error (.columnOutOfBounds i)

/-- The position of a label, without regard to case and quoting. -/
def columnIndex? (c : Cursor σ) (label : String) : Option Nat := c.labels.position? label

def strategy (c : Cursor σ) : Strategy := c.merger.strategy

/-! ### Closing -/

/-- Close every shard that is not closed yet. The answer is the first failure and the number of
shards that were closed. -/
def closeShards : List (Shard σ) → (Option Failure × Nat) × List (Shard σ)
  | [] => ((none, 0), [])
  | s :: ss =>
    if s.closed then
      let (r, ss) := closeShards ss
      (r, s :: ss)
    else
      let (here, s) := s.close
      let ((later, n), ss) := closeShards ss
      match here with
      | .ok () => ((later, n + 1), s :: ss)
      | .error e => ((some e, n + 1), s :: ss)

/-- Close the shards and end the life of the cursor. -/
def shut (c : Cursor σ) : Option Failure × Cursor σ :=
  let ((e, n), shards) := closeShards c.shards
  (e, { c with shards, phase := .closed, sourcesClosed := c.sourcesClosed + n })

/-- Close the cursor. All shards are closed, even if some fail; the first failure is reported. -/
def close (c : Cursor σ) : Except Failure Unit × Cursor σ :=
  match c.shut with
  | (none, c) => (.ok (), c)
  | (some e, c) => (.error e, c)

/-- Leave the cursor without closing it: shards that are still open are closed. -/
def drop (c : Cursor σ) : Cursor σ :=
  let ((_, n), shards) := closeShards c.shards
  { c with shards, sourcesClosed := c.sourcesClosed + n }

/-! ### Advancing -/

/-- Draw a row of the whole result from the merge. -/
def draw (t : Merger × List (Shard σ)) : Except Failure Bool × Merger × List (Shard σ) :=
  t.1.advance t.2

/-- Draw a row that the pagination admits. -/
def drawInWindow (c : Cursor σ) : Except Failure Bool × Cursor σ :=
  match c.pagination with
  | none =>
    let (r, merger, shards) := draw (c.merger, c.shards)
    (r, { c with merger, shards })
  | some p =>
    let (r, window, merger, shards) := p.window.advance draw (c.merger, c.shards)
    (r, { c with merger, shards, pagination := some { p with window } })

/-- Move to the next row. A failure closes the cursor, and it is that failure which is
reported. -/
def advance (c : Cursor σ) : Except Failure Bool × Cursor σ :=
  match c.phase with
  | .exhausted => (.ok false, c)
  | .closed => (.error (.prematureAccess "advance() on a closed cursor"), c)
  | .beforeFirst | .onRow =>
    match c.drawInWindow with
    | (.ok true, c) => (.ok true, { c with phase := .onRow, rowsEmitted := c.rowsEmitted + 1 })
    | (.ok false, c) => (.ok false, { c with phase := .exhausted })
    | (.error e, c) => (.error e, c.shut.2)

/-! ### Reading -/

/-- The cell of a row at a position counted from 1, read as a type. -/
def readCopy (r : Row) (i : Nat) (t : SqlType) : Except Failure Cell :=
  match r[i - 1]? with
  | some c => c.coerce t
  | none => .error (.columnOutOfBounds i)

/-- The row number as a 64-bit integer; from `2^63` on it wraps around to the negative numbers. -/
def rowNumberCell (n : Nat) : Cell := .int64 (.wrap 64 n)

/-- The failure to be on a row without knowing where it is. -/
def lostRow (s : Strategy) : Failure :=
  .internalBug "E-MERGE-001" "merged cursor is on a row but the merger has none"
    ("strategy=" ++ s.name)

/-- Read a column where the current row is, whatever the phase of the cursor. -/
def readCurrent (c : Cursor σ) (i : Nat) (t : SqlType) : Except Failure Cell × Cursor σ :=
  match c.merger.current with
  | some (.shard k) =>
    match c.shards[k]? with
    | some s =>
      let (r, s) := s.value i t
      (r, { c with shards := c.shards.set k s })
    | none => (.error (lostRow c.strategy), c)
  | some (.row r) => (readCopy r i t, c)
  | none => (.error (lostRow c.strategy), c)

/-- Read a column of the current row, the row number included. -/
def readColumn (c : Cursor σ) (i : Nat) (t : SqlType) : Except Failure Cell × Cursor σ :=
  match c.rowNumberColumn, c.pagination with
  | some k, some p => if k = i then ((rowNumberCell p.rowNumber).coerce t, c) else c.readCurrent i t
  | _, _ => c.readCurrent i t

/-- Read a column of the current row, counted from 1, as a type. A transient failure closes the
cursor; any other one leaves it on its row. -/
def value (c : Cursor σ) (i : Nat) (t : SqlType) : Except Failure Cell × Cursor σ :=
  match c.phase with
  | .beforeFirst => (.error (.prematureAccess "value read before the first advance()"), c)
  | .exhausted =>
    (.error (.prematureAccess "value read after the merged cursor was exhausted"), c)
  | .closed => (.error (.prematureAccess "value read on a closed cursor"), c)
  | .onRow =>
    if i = 0 ∨ c.columnCount < i then (.error (.columnOutOfBounds i), c)
    else
      match c.readColumn i t with
      | (.ok v, c) => (.ok v, { c with lastNull := v.isNull })
      | (.error e, c) => if e.isTransient then (.error e, c.shut.2) else (.error e, c)

/-- Read the column with a label. -/
def valueByLabel (c : Cursor σ) (label : String) (t : SqlType) : Except Failure Cell × Cursor σ :=
  match c.columnIndex? label with
  | some i => c.value i t
  | none => (.error (.unknownColumn label), c)

/-- Whether the last value read was NULL. -/
def wasNull (c : Cursor σ) : Except Failure Bool :=
  match c.phase with
  | .onRow => .ok c.lastNull
  | _ => .error (.prematureAccess "was_null() without a current row")

/-- Read columns of the current row from `first` on, as many as asked for. -/
def readFrom (c : Cursor σ) (first : Nat) : Nat → Except Failure Row × Cursor σ
  | 0 => (.ok [], c)
  | n + 1 =>
    match c.value first .any with
    | (.error e, c) => (.error e, c)
    | (.ok v, c) =>
      match c.readFrom (first + 1) n with
      | (.error e, c) => (.error e, c)
      | (.ok vs, c) => (.ok (v :: vs), c)

/-- A copy of the current row. -/
def currentRow (c : Cursor σ) : Except Failure Row × Cursor σ := c.readFrom 1 c.columnCount

end Cursor

end Confluence
