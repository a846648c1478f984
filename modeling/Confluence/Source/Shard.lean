import Confluence.Source.Basic

/-!
# Shards

A shard is a row source as a merge owns it. It remembers that its rows are at their end, reaches
the source with at most one call to close it, and says in every failure which shard it is.
-/

namespace Confluence

structure Shard (σ : Type) where
  number : Nat
  source : σ
  exhausted : Bool := false
  closed : Bool := false

namespace Shard

variable {σ : Type} [RowSource σ]

/-- The note on a failure of this shard. -/
def note (s : Shard σ) (stage : String) : String :=
  "stage=" ++ stage ++ ", shard=" ++ toString s.number

/-- Move to the next row. At the end of the rows the source is not called again. -/
def advance (s : Shard σ) : Except Failure Bool × Shard σ :=
  if s.exhausted || s.closed then (.ok false, s)
  else
    match RowSource.advance s.source with
    | (.ok true, source) => (.ok true, { s with source })
    | (.ok false, source) => (.ok false, { s with source, exhausted := true })
    | (.error e, source) => (.error (e.within (s.note "advance")), { s with source })

/-- Read a column of the current row, counted from 1, as a type. -/
def value (s : Shard σ) (i : Nat) (t : SqlType) : Except Failure Cell × Shard σ :=
  match RowSource.value s.source i t with
  | (.ok c, source) => (.ok c, { s with source })
  | (.error e, source) => (.error (e.within (s.note "read")), { s with source })

/-- The cells of the current row in the given columns, counted from 0. -/
def readColumns (s : Shard σ) : List Nat → Except Failure Row × Shard σ
  | [] => (.ok [], s)
  | i :: is =>
    match s.value (i + 1) .any with
    | (.error e, s) => (.error e, s)
    | (.ok c, s) =>
      match s.readColumns is with
      | (.error e, s) => (.error e, s)
      | (.ok cs, s) => (.ok (c :: cs), s)

/-- A copy of the first cells of the current row. -/
def readRow (s : Shard σ) (columnCount : Nat) : Except Failure Row × Shard σ :=
  s.readColumns (List.range columnCount)

/-- Close the source, unless that was done already. -/
def close (s : Shard σ) : Except Failure Unit × Shard σ :=
  if s.closed then (.ok (), s)
  else
    match RowSource.close s.source with
    | (r, source) => (r, { s with source, closed := true })

/-! ### Rows to come -/

/-- A bound on the rows of a shard that are still to come. -/
def remaining (s : Shard σ) : Nat := RowSource.remaining s.source

theorem remaining_advance_lt {s s' : Shard σ} (h : s.advance = (.ok true, s')) :
    s'.remaining < s.remaining := by
  rw [advance] at h
  split at h
  · cases h
  · split at h
    next source hs =>
      cases h
      exact RowSource.remaining_advance_lt hs
    · cases h
    · cases h

theorem remaining_advance_le (s : Shard σ) : s.advance.2.remaining ≤ s.remaining := by
  have h := RowSource.remaining_advance_le s.source
  rw [advance]
  split
  · exact Nat.le_refl _
  · split <;> simp_all [remaining]

theorem remaining_value_le (s : Shard σ) (i : Nat) (t : SqlType) :
    (s.value i t).2.remaining ≤ s.remaining := by
  have h := RowSource.remaining_value_le s.source i t
  rw [value]
  split <;> simp_all [remaining]

theorem remaining_readColumns_le (s : Shard σ) (is : List Nat) :
    (s.readColumns is).2.remaining ≤ s.remaining := by
  induction is generalizing s with
  | nil => exact Nat.le_refl _
  | cons i is ih =>
    have hv := s.remaining_value_le (i + 1) .any
    rw [readColumns]
    split
    next e s' h => simpa [h] using hv
    next c s' h =>
      have hr := ih s'
      rw [h] at hv
      split <;> simp_all <;> omega

theorem remaining_readRow_le (s : Shard σ) (n : Nat) :
    (s.readRow n).2.remaining ≤ s.remaining :=
  s.remaining_readColumns_le _

theorem remaining_close_le (s : Shard σ) : s.close.2.remaining ≤ s.remaining := by
  have h := RowSource.remaining_close_le s.source
  rw [close]
  split
  · exact Nat.le_refl _
  · exact h

/-! ### Lists of shards -/

/-- A bound on the rows of several shards that are still to come. -/
def totalRemaining : List (Shard σ) → Nat
  | [] => 0
  | s :: ss => s.remaining + totalRemaining ss

@[simp] theorem totalRemaining_nil : totalRemaining ([] : List (Shard σ)) = 0 := rfl

@[simp] theorem totalRemaining_cons (s : Shard σ) (ss : List (Shard σ)) :
    totalRemaining (s :: ss) = s.remaining + totalRemaining ss := rfl

theorem totalRemaining_set {ss : List (Shard σ)} {k : Nat} {s : Shard σ} (s' : Shard σ)
    (h : ss[k]? = some s) :
    totalRemaining (ss.set k s') + s.remaining = totalRemaining ss + s'.remaining := by
  induction ss generalizing k with
  | nil => simp at h
  | cons a as ih =>
    cases k with
    | zero =>
      simp only [List.getElem?_cons_zero, Option.some.injEq] at h
      subst h
      simp only [List.set_cons_zero, totalRemaining_cons]
      omega
    | succ k =>
      have := ih (by simpa using h)
      simp only [List.set_cons_succ, totalRemaining_cons]
      omega

end Shard

end Confluence
