import Confluence.Source.Basic

/-!
# Rows in memory

A row source over a list of rows. Rows may have fewer or more cells than there are labels; a cell
that a row does not have cannot be read.
-/

namespace Confluence

structure MemorySource where
  labels : List String
  rows : List Row
  /-- The number of calls that moved it: the current row is the one before this position. -/
  position : Nat := 0
  lastNull : Bool := false
  closed : Bool := false

namespace MemorySource

variable (s : MemorySource)

def columnCount : Nat := s.labels.length

def columnLabel (i : Nat) : Except Failure String :=
  match i with
  | 0 => .error (.columnOutOfBounds 0)
  | k + 1 =>
    match s.labels[k]? with
    | some l => .ok l
    | none => .error (.columnOutOfBounds (k + 1))

/-- The number of rows that were reached so far. -/
def rowsRead : Nat := min s.position s.rows.length

def advance : Except Failure Bool × MemorySource :=
  if s.closed then (.error (.prematureAccess "advance() on a closed row source"), s)
  else if s.position < s.rows.length then (.ok true, { s with position := s.position + 1 })
  else (.ok false, { s with position := s.rows.length + 1 })

/-- The row that the source is on. -/
def current : Except Failure Row :=
  if s.closed then .error (.prematureAccess "row source is closed")
  else
    match s.position with
    | 0 => .error (.prematureAccess "value read before the first advance()")
    | p + 1 =>
      match s.rows[p]? with
      | some r => .ok r
      | none => .error (.prematureAccess "value read after the row source was exhausted")

/-- The cell of the current row in a column, read as a type. -/
def read (i : Nat) (t : SqlType) : Except Failure Cell :=
  match s.current with
  | .error e => .error e
  | .ok r =>
    match i with
    | 0 => .error (.columnOutOfBounds 0)
    | k + 1 =>
      match r[k]? with
      | some c => c.coerce t
      | none => .error (.columnOutOfBounds (k + 1))

def value (i : Nat) (t : SqlType) : Except Failure Cell × MemorySource :=
  match s.read i t with
  | .ok c => (.ok c, { s with lastNull := c.isNull })
  | .error e => (.error e, s)

def close : Except Failure Unit × MemorySource := (.ok (), { s with closed := true })

def remaining : Nat := s.rows.length - s.position

end MemorySource

instance : RowSource MemorySource where
  columnCount := MemorySource.columnCount
  columnLabel := MemorySource.columnLabel
  advance := MemorySource.advance
  value := MemorySource.value
  wasNull := MemorySource.lastNull
  close := MemorySource.close
  remaining := MemorySource.remaining
  remaining_advance_lt {s s'} h := by
    rw [MemorySource.advance] at h
    split at h
    · cases h
    · split at h
      · cases h
        simp only [MemorySource.remaining]
        omega
      · cases h
  remaining_advance_le s := by
    rw [MemorySource.advance]
    split
    · exact Nat.le_refl _
    · split <;> simp only [MemorySource.remaining] <;> omega
  remaining_value_le s i t := by
    rw [MemorySource.value]
    split <;> exact Nat.le_refl _
  remaining_close_le s := Nat.le_refl _

end Confluence
