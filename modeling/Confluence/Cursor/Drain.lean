import Confluence.Cursor.Source

/-!
# Draining a cursor

All rows that are still to come, up to the end or to the first failure.
-/

set_option linter.unusedVariables false

namespace Confluence.Cursor

variable {σ : Type} [RowSource σ]

/-- The rows up to the end of a cursor, and the failure that ended them, if one did. -/
def drain (c : Cursor σ) : (List Row × Option Failure) × Cursor σ :=
  match h : c.advance with
  | (.error e, c') => (([], some e), c')
  | (.ok false, c') => (([], none), c')
  | (.ok true, c') =>
    match h' : c'.currentRow with
    | (.error e, c'') => (([], some e), c'')
    | (.ok row, c'') =>
      let ((rows, e), last) := drain c''
      ((row :: rows, e), last)
termination_by c.remaining
decreasing_by
  have hlt := remaining_advance_lt h
  have hle := c'.remaining_readFrom_le 1 c'.columnCount
  unfold currentRow at h'
  simp only [h'] at hle
  omega

/-- One row of draining, without the proof that it ends. -/
theorem drain_def (c : Cursor σ) :
    c.drain =
      match c.advance with
      | (.error e, c') => (([], some e), c')
      | (.ok false, c') => (([], none), c')
      | (.ok true, c') =>
        match c'.currentRow with
        | (.error e, c'') => (([], some e), c'')
        | (.ok row, c'') => ((row :: c''.drain.1.1, c''.drain.1.2), c''.drain.2) := by
  rw [drain]
  split
  next h => rw [h]
  next h => rw [h]
  next h =>
    rw [h]
    simp only
    split <;> next h' => rw [h']

end Confluence.Cursor
