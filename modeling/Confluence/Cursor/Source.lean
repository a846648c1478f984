import Confluence.Cursor.Basic

/-!
# Cursors as row sources

A merged cursor stands wherever a row source is expected. The rows it still has are bounded by
those of its merge, which every row drawn makes fewer.
-/

namespace Confluence.Cursor

variable {σ : Type} [RowSource σ]

/-- A bound on the rows still to come. -/
def remaining (c : Cursor σ) : Nat := c.merger.pending c.shards

/-- The bound of a merge depends on its shards only through what they have left. -/
theorem pending_mono (m : Merger) {ss ss' : List (Shard σ)}
    (h : Shard.totalRemaining ss' ≤ Shard.totalRemaining ss) : m.pending ss' ≤ m.pending ss := by
  cases m <;>
    simp only [Merger.pending, OrderedMerge.pending, GroupedStream.pending, GroupedMemory.pending] <;>
    omega

theorem totalRemaining_closeShards_le (ss : List (Shard σ)) :
    Shard.totalRemaining (closeShards ss).2 ≤ Shard.totalRemaining ss := by
  induction ss with
  | nil => exact Nat.le_refl _
  | cons s ss ih =>
    have hs := s.remaining_close_le
    rw [closeShards]
    split
    · simp only [Shard.totalRemaining_cons]
      omega
    · rcases h : s.close with ⟨here, s'⟩
      rw [h] at hs
      cases here <;> simp only [Shard.totalRemaining_cons] <;> simp only at hs <;> omega

theorem remaining_shut_le (c : Cursor σ) : c.shut.2.remaining ≤ c.remaining :=
  pending_mono _ (totalRemaining_closeShards_le _)

theorem remaining_close_le (c : Cursor σ) : c.close.2.remaining ≤ c.remaining := by
  have h := c.remaining_shut_le
  rw [close]
  split <;> simp_all

theorem remaining_drawInWindow_le (c : Cursor σ) :
    c.drawInWindow.2.remaining ≤ c.remaining := by
  rw [drawInWindow]
  split
  · exact c.merger.pending_advance_le c.shards
  next p hp =>
    exact Window.measure_advance_le (μ := fun t => t.1.pending t.2)
      (fun t => t.1.pending_advance_le t.2) p.window (c.merger, c.shards)

theorem remaining_drawInWindow_lt (c : Cursor σ) (h : c.drawInWindow.1 = .ok true) :
    c.drawInWindow.2.remaining < c.remaining := by
  rw [drawInWindow] at h ⊢
  split at h
  · exact c.merger.pending_advance_lt c.shards h
  next p hp =>
    exact Window.measure_advance_lt (μ := fun t => t.1.pending t.2)
      (fun t => t.1.pending_advance_lt t.2) p.window (c.merger, c.shards) h

theorem remaining_advance_le (c : Cursor σ) : c.advance.2.remaining ≤ c.remaining := by
  rw [advance]
  split
  · exact Nat.le_refl _
  · exact Nat.le_refl _
  all_goals
    have h := c.remaining_drawInWindow_le
    split
    next c' hd => simp only [hd] at h; exact h
    next c' hd => simp only [hd] at h; exact h
    next e c' hd => simp only [hd] at h; exact Nat.le_trans c'.remaining_shut_le h

theorem remaining_advance_lt {c c' : Cursor σ} (h : c.advance = (.ok true, c')) :
    c'.remaining < c.remaining := by
  have hlt := c.remaining_drawInWindow_lt
  rw [advance] at h
  split at h
  · cases h
  · cases h
  all_goals
    split at h
    next c₁ hd =>
      simp only [hd, forall_const] at hlt
      cases h
      exact hlt
    · cases h
    · cases h

theorem remaining_readCurrent_le (c : Cursor σ) (i : Nat) (t : SqlType) :
    (c.readCurrent i t).2.remaining ≤ c.remaining := by
  rw [readCurrent]
  split
  next k hk =>
    split
    next s hs =>
      apply pending_mono
      have hv := s.remaining_value_le i t
      have ht := Shard.totalRemaining_set (s.value i t).2 hs
      simp only
      omega
    · exact Nat.le_refl _
  · exact Nat.le_refl _
  · exact Nat.le_refl _

theorem remaining_readColumn_le (c : Cursor σ) (i : Nat) (t : SqlType) :
    (c.readColumn i t).2.remaining ≤ c.remaining := by
  rw [readColumn]
  split
  · split
    · exact Nat.le_refl _
    · exact c.remaining_readCurrent_le i t
  · exact c.remaining_readCurrent_le i t

theorem remaining_value_le (c : Cursor σ) (i : Nat) (t : SqlType) :
    (c.value i t).2.remaining ≤ c.remaining := by
  rw [value]
  split
  · exact Nat.le_refl _
  · exact Nat.le_refl _
  · exact Nat.le_refl _
  · split
    · exact Nat.le_refl _
    · have h := c.remaining_readColumn_le i t
      split
      next v c' hr => simp only [hr] at h; exact h
      next e c' hr =>
        simp only [hr] at h
        split
        · exact Nat.le_trans c'.remaining_shut_le h
        · exact h

theorem remaining_readFrom_le (c : Cursor σ) (first n : Nat) :
    (c.readFrom first n).2.remaining ≤ c.remaining := by
  induction n generalizing c first with
  | zero => exact Nat.le_refl _
  | succ n ih =>
    have hv := c.remaining_value_le first .any
    rw [readFrom]
    split
    next e c' h => simpa only [h] using hv
    next v c' h =>
      simp only [h] at hv
      have := ih c' (first + 1)
      split <;> simp_all <;> omega

instance : RowSource (Cursor σ) where
  columnCount := columnCount
  columnLabel := columnLabel
  advance := advance
  value := value
  wasNull c := c.lastNull
  close := close
  remaining := remaining
  remaining_advance_lt := remaining_advance_lt
  remaining_advance_le := remaining_advance_le
  remaining_value_le := remaining_value_le
  remaining_close_le := remaining_close_le

end Confluence.Cursor
