import Confluence.Cell.Coerce

/-!
# Row sources

A row source is a cursor that moves forward over the rows of one result. Columns are counted from
1. Every call gives an answer or a failure, and the source as it is afterwards.

A source also knows a bound on the rows it still has. The laws on it are what ends the loops that
read a source to its end.
-/

namespace Confluence

/-- A forward-only cursor over rows. -/
class RowSource (σ : Type) where
  columnCount : σ → Nat
  columnLabel : σ → Nat → Except Failure String
  /-- Move to the next row; the answer is whether there is one. -/
  advance : σ → Except Failure Bool × σ
  /-- Read a column of the current row as a type. -/
  value : σ → Nat → SqlType → Except Failure Cell × σ
  /-- Whether the last value read was NULL. -/
  wasNull : σ → Bool
  close : σ → Except Failure Unit × σ
  /-- A bound on the rows that are still to come. -/
  remaining : σ → Nat
  remaining_advance_lt {s s' : σ} : advance s = (.ok true, s') → remaining s' < remaining s
  remaining_advance_le (s : σ) : remaining (advance s).2 ≤ remaining s
  remaining_value_le (s : σ) (i : Nat) (t : SqlType) : remaining (value s i t).2 ≤ remaining s
  remaining_close_le (s : σ) : remaining (close s).2 ≤ remaining s

namespace RowSource

variable {α β : Type} [RowSource α] [RowSource β]

/-- A source of either kind. -/
instance : RowSource (α ⊕ β) where
  columnCount
    | .inl s => columnCount s
    | .inr s => columnCount s
  columnLabel
    | .inl s => columnLabel s
    | .inr s => columnLabel s
  advance
    | .inl s => ((advance s).1, .inl (advance s).2)
    | .inr s => ((advance s).1, .inr (advance s).2)
  value
    | .inl s, i, t => ((value s i t).1, .inl (value s i t).2)
    | .inr s, i, t => ((value s i t).1, .inr (value s i t).2)
  wasNull
    | .inl s => wasNull s
    | .inr s => wasNull s
  close
    | .inl s => ((close s).1, .inl (close s).2)
    | .inr s => ((close s).1, .inr (close s).2)
  remaining
    | .inl s => remaining s
    | .inr s => remaining s
  remaining_advance_lt {s s'} h := by
    cases s <;> simp only [Prod.mk.injEq] at h <;> obtain ⟨h₁, rfl⟩ := h <;>
      exact remaining_advance_lt (Prod.ext h₁ rfl)
  remaining_advance_le s := by cases s <;> exact remaining_advance_le _
  remaining_value_le s i t := by cases s <;> exact remaining_value_le _ i t
  remaining_close_le s := by cases s <;> exact remaining_close_le _

end RowSource

end Confluence
