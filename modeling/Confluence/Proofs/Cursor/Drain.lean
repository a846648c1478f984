import Confluence.Cursor.Drain
import Confluence.Proofs.Merge.Runs
import Confluence.Proofs.Source.View

/-!
# Draining follows the merge

A cursor without a limit adds nothing to its merge: its rows, and the failure that ends them, are
those of the merge. So to know what a cursor drains to it is enough to run its merge.
-/

namespace Confluence

variable {σ : Type} [RowSource σ]

namespace Cursor

/-- A cursor without a limit that was neither closed nor drained, over a merge of some shards. -/
structure Over (c : Cursor σ) (columnCount : Nat) (m : Merger) (ss : List (Shard σ)) : Prop where
  merger_eq : c.merger = m
  shards_eq : c.shards = ss
  live : c.phase = .beforeFirst ∨ c.phase = .onRow
  unlimited : c.pagination = none
  columnCount_eq : c.columnCount = columnCount

variable {c : Cursor σ} {n : Nat} {m m' : Merger} {ss ss' : List (Shard σ)} {r : Row}

/-! ### Reading -/

lemma value_eq_readCurrent {i : Nat} (hphase : c.phase = .onRow) (hlimit : c.pagination = none)
    (hi : i < c.columnCount) {v : Cell} {c' : Cursor σ}
    (h : c.readCurrent (i + 1) .any = (.ok v, c')) :
    c.value (i + 1) .any = (.ok v, { c' with lastNull := v.isNull }) := by
  have hread : c.readColumn (i + 1) .any = (.ok v, c') := by
    rw [readColumn, hlimit]
    split
    next h' => cases h'
    · exact h
  have hbound : ¬ (i + 1 = 0 ∨ c.columnCount < i + 1) := by
    rw [not_or]
    exact ⟨Nat.succ_ne_zero i, Nat.not_lt.mpr hi⟩
  simp only [value, hphase, if_neg hbound, hread]

/-- Reading from a copy leaves the cursor where it is. -/
lemma readFrom_copy (hphase : c.phase = .onRow) (hlimit : c.pagination = none)
    (hm : c.merger.current = some (.row r)) (hr : r.length = c.columnCount) {i k : Nat}
    (hk : i + k = c.columnCount) :
    ∃ b, c.readFrom (i + 1) k = (.ok ((List.range' i k).map r.cell), { c with lastNull := b }) := by
  induction k generalizing c i with
  | zero => exact ⟨c.lastNull, rfl⟩
  | succ k ih =>
    have hi : i < c.columnCount := by
      rw [← hk]
      exact Nat.lt_add_of_pos_right (Nat.succ_pos k)
    have hread : c.readCurrent (i + 1) .any = (.ok (r.cell i), c) := by
      have hget : r[i]? = some (r.cell i) := by
        rw [Row.cell, List.getD_eq_getElem?_getD, List.getElem?_eq_getElem (hr ▸ hi)]
        rfl
      simp only [readCurrent, hm, readCopy, Nat.add_sub_cancel, hget, Cell.coerce_any]
    have hvalue := value_eq_readCurrent hphase hlimit hi hread
    have hk' : i + 1 + k = c.columnCount := by rw [← hk, Nat.add_assoc, Nat.add_comm 1]
    obtain ⟨b, hrest⟩ := ih (c := { c with lastNull := (r.cell i).isNull }) hphase hlimit hm hr hk'
    refine ⟨b, ?_⟩
    rw [readFrom, hvalue]
    simp only [hrest]
    rfl

/-- Reading a row cell by cell moves the shard that sits on it, as reading it at once does. -/
lemma readFrom_shard {j k i : Nat} {s s' : Shard σ} (hphase : c.phase = .onRow)
    (hlimit : c.pagination = none) (hm : c.merger.current = some (.shard j))
    (hs : c.shards[j]? = some s) (hk : i + k = c.columnCount)
    (hread : s.readColumns (List.range' i k) = (.ok r, s')) :
    ∃ b, c.readFrom (i + 1) k =
      (.ok r, { c with shards := c.shards.set j s', lastNull := b }) := by
  induction k generalizing c i s r with
  | zero =>
    cases hread
    obtain ⟨hj, rfl⟩ := List.getElem?_eq_some_iff.mp hs
    refine ⟨c.lastNull, ?_⟩
    rw [List.set_getElem_self]
    rfl
  | succ k ih =>
    have hi : i < c.columnCount := by
      rw [← hk]
      exact Nat.lt_add_of_pos_right (Nat.succ_pos k)
    have hk' : i + 1 + k = c.columnCount := by rw [← hk, Nat.add_assoc, Nat.add_comm 1]
    rw [List.range'_succ, Shard.readColumns] at hread
    rcases hv : s.value (i + 1) .any with ⟨_ | v, s₁⟩
    · rw [hv] at hread
      cases hread
    · rw [hv] at hread
      rcases hvs : s₁.readColumns (List.range' (i + 1) k) with ⟨_ | vs, s₂⟩
      · simp only [hvs] at hread
        cases hread
      · simp only [hvs, Prod.mk.injEq, Except.ok.injEq] at hread
        obtain ⟨rfl, rfl⟩ := hread
        have hcur : c.readCurrent (i + 1) .any = (.ok v, { c with shards := c.shards.set j s₁ }) := by
          simp only [readCurrent, hm, hs, hv]
        have hvalue := value_eq_readCurrent hphase hlimit hi hcur
        have hs₁ : (c.shards.set j s₁)[j]? = some s₁ := by
          rw [List.getElem?_set_self]
          exact (List.getElem?_eq_some_iff.mp hs).1
        obtain ⟨b, hrest⟩ :=
          ih (c := { c with shards := c.shards.set j s₁, lastNull := v.isNull }) hphase hlimit hm hs₁
            hk' hvs
        refine ⟨b, ?_⟩
        rw [readFrom, hvalue]
        simp only [hrest, List.set_set]

/-- A copy of the current row is the row that the merge is on. -/
lemma currentRow_of_shows (h : c.Over n m ss) (hphase : c.phase = .onRow)
    (hrow : m.Shows n ss r ss') :
    ∃ c', c.currentRow = (.ok r, c') ∧ c'.Over n m ss' := by
  obtain ⟨rfl, rfl, -, hlimit, rfl⟩ := h
  cases hrow with
  | copy hm hr =>
    obtain ⟨b, hread⟩ := readFrom_copy hphase hlimit hm hr (Nat.zero_add c.columnCount)
    rw [← List.range_eq_range', Row.map_cell_range hr] at hread
    exact ⟨_, hread, ⟨rfl, rfl, Or.inr hphase, hlimit, rfl⟩⟩
  | shard hm hs hread =>
    rw [Shard.readRow, List.range_eq_range'] at hread
    obtain ⟨b, hread⟩ := readFrom_shard hphase hlimit hm hs (Nat.zero_add c.columnCount) hread
    exact ⟨_, hread, ⟨rfl, rfl, Or.inr hphase, hlimit, rfl⟩⟩

/-! ### Draining -/

lemma drawInWindow_of_over (h : c.Over n m ss) {a : Except Failure Bool}
    (hadv : m.advance ss = (a, m', ss')) :
    c.drawInWindow = (a, { c with merger := m', shards := ss' }) := by
  obtain ⟨rfl, rfl, -, hlimit, -⟩ := h
  simp only [drawInWindow, hlimit, draw, hadv]

lemma advance_of_over (h : c.Over n m ss) {a : Except Failure Bool}
    (hadv : m.advance ss = (a, m', ss')) :
    ∃ c', c.advance = (a, c') ∧ (a = .ok true → c'.phase = .onRow ∧ c'.Over n m' ss') := by
  have hdraw := drawInWindow_of_over h hadv
  obtain ⟨-, -, hlive, hlimit, hcount⟩ := h
  rw [advance]
  split
  next hphase => simp [hphase] at hlive
  next hphase => simp [hphase] at hlive
  all_goals
    rw [hdraw]
    cases a with
    | error e =>
      refine ⟨_, rfl, ?_⟩
      rintro ⟨⟩
    | ok b =>
      cases b with
      | false =>
        refine ⟨_, rfl, ?_⟩
        rintro ⟨⟩
      | true => exact ⟨_, rfl, fun _ => ⟨rfl, rfl, rfl, Or.inr rfl, hlimit, hcount⟩⟩

/-- A cursor without a limit drains to the rows of its merge, up to the same failure. -/
theorem drain_of_emits {rows : List Row} {e : Option Failure} (hrun : m.Emits n ss rows e)
    (h : c.Over n m ss) : c.drain.1 = (rows, e) := by
  induction hrun generalizing c with
  | failed hadv =>
    obtain ⟨c', hc, -⟩ := advance_of_over h (Prod.ext hadv rfl)
    rw [drain_def, hc]
  | ended hadv =>
    obtain ⟨c', hc, -⟩ := advance_of_over h (Prod.ext hadv rfl)
    rw [drain_def, hc]
  | row hadv hrow _ ih =>
    obtain ⟨c₁, hc, hover⟩ := advance_of_over h hadv
    obtain ⟨hphase, hover⟩ := hover rfl
    obtain ⟨c₂, hread, hover'⟩ := currentRow_of_shows hover hphase hrow
    rw [drain_def, hc]
    simp only [hread, ih hover']

end Cursor

end Confluence
