import Confluence.Source.Memory

/-!
# Sources that fail on purpose

A source in memory that fails where a script says so, and that keeps a list of the calls it
received. It stands for a shard whose connection can break at any call.
-/

namespace Confluence

/-- A call that a source received. -/
inductive SourceCall where
  /-- Whether the call moved the source to a row. -/
  | advance (moved : Bool)
  | value
  | close
deriving DecidableEq

/-- Where a source fails, and with what: reading the label of a column, advancing once a number of
rows were read, reading a column once a number of rows were read, or closing. -/
structure FailureScript where
  label (column : Nat) : Option Failure := none
  advance (rows : Nat) : Option Failure := none
  value (rows column : Nat) : Option Failure := none
  close : Option Failure := none

/-- A single failure, in one column or after one number of rows. -/
instance : Coe (Option (Nat × Failure)) (Nat → Option Failure) where
  coe
    | some (n, e), k => if k = n then some e else none
    | none, _ => none

/-- The same failure in all places after a number of rows and in a column, or in any of them where
none is given. -/
instance : Coe (Option (Option Nat × Option Nat × Failure)) (Nat → Nat → Option Failure) where
  coe
    | some (row, column, e), n, i =>
      if (row = none ∨ row = some n) ∧ (column = none ∨ column = some i) then some e else none
    | none, _, _ => none

structure ScriptedSource where
  memory : MemorySource
  script : FailureScript := {}
  /-- The calls received, the latest first. -/
  calls : List SourceCall := []

namespace ScriptedSource

variable (s : ScriptedSource)

def columnLabel (i : Nat) : Except Failure String :=
  match s.script.label i with
  | some e => .error e
  | none => s.memory.columnLabel i

/-- The failure that the script has for the next advance. -/
def advanceFailure? : Option Failure := s.script.advance s.memory.rowsRead

def advance : Except Failure Bool × ScriptedSource :=
  match s.advanceFailure? with
  | some e => (.error e, { s with calls := .advance false :: s.calls })
  | none =>
    match s.memory.advance with
    | (.ok true, m) => (.ok true, { s with memory := m, calls := .advance true :: s.calls })
    | (r, m) => (r, { s with memory := m, calls := .advance false :: s.calls })

/-- The failure that the script has for reading a column now. -/
def valueFailure? (i : Nat) : Option Failure := s.script.value s.memory.rowsRead i

def value (i : Nat) (t : SqlType) : Except Failure Cell × ScriptedSource :=
  match s.valueFailure? i with
  | some e => (.error e, { s with calls := .value :: s.calls })
  | none =>
    let (r, m) := s.memory.value i t
    (r, { s with memory := m, calls := .value :: s.calls })

/-- Close the source; a scripted failure comes after that. -/
def close : Except Failure Unit × ScriptedSource :=
  let closed := { s with memory := s.memory.close.2, calls := .close :: s.calls }
  match s.script.close with
  | some e => (.error e, closed)
  | none => (.ok (), closed)

/-- The number of calls to advance it. -/
def advances : Nat := s.calls.countP fun c => match c with | .advance _ => true | _ => false

/-- The number of calls to close it. -/
def closes : Nat := s.calls.count .close

end ScriptedSource

instance : RowSource ScriptedSource where
  columnCount s := s.memory.columnCount
  columnLabel := ScriptedSource.columnLabel
  advance := ScriptedSource.advance
  value := ScriptedSource.value
  wasNull s := s.memory.lastNull
  close := ScriptedSource.close
  remaining s := s.memory.remaining
  remaining_advance_lt {s s'} h := by
    rw [ScriptedSource.advance] at h
    split at h
    · cases h
    · split at h
      next m hm =>
        cases h
        exact RowSource.remaining_advance_lt (σ := MemorySource) hm
      next r m hr hm =>
        cases h
        exact absurd rfl hr
  remaining_advance_le s := by
    rw [ScriptedSource.advance]
    split
    · exact Nat.le_refl _
    · have h := RowSource.remaining_advance_le (σ := MemorySource) s.memory
      split <;> simp_all [RowSource.advance, RowSource.remaining]
  remaining_value_le s i t := by
    rw [ScriptedSource.value]
    split
    · exact Nat.le_refl _
    · exact RowSource.remaining_value_le (σ := MemorySource) s.memory i t
  remaining_close_le s := by
    rw [ScriptedSource.close]
    split <;> exact Nat.le_refl _

end Confluence
