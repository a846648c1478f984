import Confluence.Cursor.Drain

/-!
# What a drain asks of its merge

The answers of a merge to each time that it is asked for a row while its cursor is drained. They
are noted beside the merge, which is asked as it always is.
-/

set_option linter.unusedVariables false

namespace Confluence

/-- Draw a row and note the answer behind those that were noted before. -/
def Window.noting {τ : Type} (next : τ → Except Failure Bool × τ)
    (t : List (Except Failure Bool) × τ) :
    Except Failure Bool × List (Except Failure Bool) × τ :=
  let (r, u) := next t.2
  (r, t.1 ++ [r], u)

namespace Cursor

variable {σ : Type} [RowSource σ]

/-- The answers of the merge while the cursor moves to its next row. -/
def asksOnAdvance (c : Cursor σ) : List (Except Failure Bool) :=
  match c.phase with
  | .exhausted | .closed => []
  | .beforeFirst | .onRow =>
    match c.pagination with
    | none => [(draw (c.merger, c.shards)).1]
    | some p => (p.window.advance (Window.noting draw) ([], c.merger, c.shards)).2.2.1

/-- The answers of the merge while the cursor is drained. -/
def asks (c : Cursor σ) : List (Except Failure Bool) :=
  c.asksOnAdvance ++
    match h : c.advance with
    | (.error _, _) => []
    | (.ok false, _) => []
    | (.ok true, c') =>
      match h' : c'.currentRow with
      | (.error _, _) => []
      | (.ok _, c'') => asks c''
termination_by c.remaining
decreasing_by
  have hlt := remaining_advance_lt h
  have hle := c'.remaining_readFrom_le 1 c'.columnCount
  unfold currentRow at h'
  simp only [h'] at hle
  omega

/-- One row of draining, without the proof that it ends. -/
theorem asks_def (c : Cursor σ) :
    c.asks = c.asksOnAdvance ++
      match c.advance with
      | (.error _, _) => []
      | (.ok false, _) => []
      | (.ok true, c') =>
        match c'.currentRow with
        | (.error _, _) => []
        | (.ok _, c'') => c''.asks := by
  rw [asks]
  congr 1
  split
  next h => rw [h]
  next h => rw [h]
  next h =>
    rw [h]
    simp only
    split <;> next h' => rw [h']

end Cursor

end Confluence
