import Confluence.Group.Table
import Confluence.Merge.Ordered

/-!
# Grouped merge of sorted shards

If the shards are sorted by their group columns, the ordered merge delivers each group in one
piece. Rows are folded until the group key changes, and the first row of the next group is held
back for the next call.
-/

set_option linter.unusedVariables false

namespace Confluence

structure GroupedStream where
  inner : OrderedMerge
  grouping : Grouping
  /-- The first row of the next group. -/
  held : Option Row := none
  /-- Whether the first row was drawn. -/
  started : Bool := false
  current : Option Row := none
  groupsBuilt : Nat := 0

namespace GroupedStream

variable {σ : Type} [RowSource σ]

/-- Draw a whole row from the ordered merge, if there is one more. -/
def nextRow (columnCount : Nat) (m : OrderedMerge) (ss : List (Shard σ)) :
    Except Failure (Option Row) × OrderedMerge × List (Shard σ) :=
  match m.advance ss with
  | (.error e, m, ss) => (.error e, m, ss)
  | (.ok false, m, ss) => (.ok none, m, ss)
  | (.ok true, m, ss) =>
    match m.current with
    | none => (.ok none, m, ss)
    | some k =>
      match ss[k]? with
      | none => (.ok none, m, ss)
      | some s =>
        match s.readRow columnCount with
        | (.error e, s) => (.error e, m, ss.set k s)
        | (.ok row, s) => (.ok (some row), m, ss.set k s)

theorem pending_nextRow_le (n : Nat) (m : OrderedMerge) (ss : List (Shard σ)) :
    (nextRow n m ss).2.1.pending (nextRow n m ss).2.2 ≤ m.pending ss := by
  have hle := m.pending_advance_le ss
  rw [nextRow]
  split
  next e m' ss' h => simpa only [h] using hle
  next m' ss' h => simpa only [h] using hle
  next m' ss' h =>
    simp only [h] at hle
    split
    · exact hle
    next k hk =>
      split
      · exact hle
      next s hs =>
        have hr := s.remaining_readRow_le n
        split
        next e s' h' =>
          have ht := Shard.totalRemaining_set s' hs
          simp only [h', OrderedMerge.pending] at hr hle ⊢
          omega
        next row s' h' =>
          have ht := Shard.totalRemaining_set s' hs
          simp only [h', OrderedMerge.pending] at hr hle ⊢
          omega

theorem pending_nextRow_lt {n : Nat} {m m' : OrderedMerge} {ss ss' : List (Shard σ)} {row : Row}
    (h : nextRow n m ss = (.ok (some row), m', ss')) : m'.pending ss' < m.pending ss := by
  rw [nextRow] at h
  split at h
  · cases h
  · cases h
  next m₁ ss₁ ha =>
    have hlt := OrderedMerge.pending_advance_lt ha
    split at h
    · cases h
    next k hk =>
      split at h
      · cases h
      next s hs =>
        have hr := s.remaining_readRow_le n
        split at h
        · cases h
        next row' s' h' =>
          cases h
          have ht := Shard.totalRemaining_set s' hs
          simp only [h', OrderedMerge.pending] at hr hlt ⊢
          omega

/-- Fold rows into a group as long as their key is the same. The answer is the group and the row
that ended it, if one did. -/
def gather (g : Grouping) (key : GroupKey) (group : Group) (m : OrderedMerge)
    (ss : List (Shard σ)) :
    Except Failure (Group × Option Row) × OrderedMerge × List (Shard σ) :=
  match h : nextRow g.columnCount m ss with
  | (.error e, m', ss') => (.error e, m', ss')
  | (.ok none, m', ss') => (.ok (group, none), m', ss')
  | (.ok (some row), m', ss') =>
    if (g.keyOf row).same key then
      match group.feed g row with
      | .error e => (.error e, m', ss')
      | .ok group => gather g key group m' ss'
    else (.ok (group, some row), m', ss')
termination_by m.pending ss
decreasing_by exact pending_nextRow_lt h

/-- One step of gathering, without the proof that it ends. -/
theorem gather_def (g : Grouping) (key : GroupKey) (group : Group) (m : OrderedMerge)
    (ss : List (Shard σ)) :
    gather g key group m ss =
      match nextRow g.columnCount m ss with
      | (.error e, m', ss') => (.error e, m', ss')
      | (.ok none, m', ss') => (.ok (group, none), m', ss')
      | (.ok (some row), m', ss') =>
        if (g.keyOf row).same key then
          match group.feed g row with
          | .error e => (.error e, m', ss')
          | .ok group => gather g key group m' ss'
        else (.ok (group, some row), m', ss') := by
  rw [gather]
  split <;> next h => simp only [h]

/-- The row that opens the next group: the one held back, or at the start the first row. -/
def firstRow (m : GroupedStream) (ss : List (Shard σ)) :
    Except Failure (Option Row) × GroupedStream × List (Shard σ) :=
  if m.started then (.ok m.held, { m with held := none }, ss)
  else
    match nextRow m.grouping.columnCount m.inner ss with
    | (r, inner, ss) => (r, { m with inner, started := true }, ss)

/-- Fold the group that a row opens, and finish it. -/
def emit (m : GroupedStream) (row : Row) (ss : List (Shard σ)) :
    Except Failure Bool × GroupedStream × List (Shard σ) :=
  match Group.start m.grouping row with
  | .error e => (.error e, m, ss)
  | .ok group =>
    match gather m.grouping (m.grouping.keyOf row) group m.inner ss with
    | (.error e, inner, ss) => (.error e, { m with inner }, ss)
    | (.ok (group, held), inner, ss) =>
      match group.finish m.grouping with
      | .error e => (.error e, { m with inner, held }, ss)
      | .ok row =>
        (.ok true,
          { m with inner, held, current := some row, groupsBuilt := m.groupsBuilt + 1 }, ss)

/-- Move to the row of the next group. -/
def advance (m : GroupedStream) (ss : List (Shard σ)) :
    Except Failure Bool × GroupedStream × List (Shard σ) :=
  match m.firstRow ss with
  | (.error e, m, ss) => (.error e, m, ss)
  | (.ok none, m, ss) => (.ok false, { m with current := none }, ss)
  | (.ok (some row), m, ss) => m.emit row ss

/-! ### Rows to come -/

/-- One, if there is a row. -/
def rowCount : Option Row → Nat
  | none => 0
  | some _ => 1

/-- A bound on the groups still to come. -/
def pending (m : GroupedStream) (ss : List (Shard σ)) : Nat :=
  rowCount m.held + m.inner.pending ss

theorem pending_gather_le (g : Grouping) (key : GroupKey) (group : Group) (m : OrderedMerge)
    (ss : List (Shard σ)) :
    (match (gather g key group m ss).1 with
      | .ok (_, held) => rowCount held
      | .error _ => 0) +
        (gather g key group m ss).2.1.pending (gather g key group m ss).2.2 ≤ m.pending ss := by
  fun_induction gather g key group m ss with
  | case1 group m ss e m' ss' h =>
    have := pending_nextRow_le g.columnCount m ss
    simp only [h] at this
    simpa using this
  | case2 group m ss m' ss' h =>
    have := pending_nextRow_le g.columnCount m ss
    simp only [h] at this
    simpa [rowCount] using this
  | case3 group m ss row m' ss' h _ e _ =>
    have := pending_nextRow_lt h
    simp only
    omega
  | case4 group m ss row m' ss' h _ group' _ ih =>
    have := pending_nextRow_lt h
    omega
  | case5 group m ss row m' ss' h _ =>
    have := pending_nextRow_lt h
    simp only [rowCount]
    omega

theorem pending_firstRow_le (m : GroupedStream) (ss : List (Shard σ)) :
    (match (m.firstRow ss).1 with
      | .ok row => rowCount row
      | .error _ => 0) + (m.firstRow ss).2.1.pending (m.firstRow ss).2.2 ≤
        rowCount m.held + m.inner.pending ss := by
  by_cases hs : m.started
  · simp [firstRow, hs, pending, rowCount]
  · have hle := pending_nextRow_le m.grouping.columnCount m.inner ss
    rcases h : nextRow m.grouping.columnCount m.inner ss with ⟨r, inner, ss'⟩
    simp only [h] at hle
    match r with
    | .error e =>
      simp only [firstRow, hs, h, pending]
      simp only [Bool.false_eq_true, ↓reduceIte]
      omega
    | .ok none =>
      simp only [firstRow, hs, h, pending]
      simp only [Bool.false_eq_true, ↓reduceIte, rowCount]
      omega
    | .ok (some row) =>
      have := pending_nextRow_lt h
      simp only [firstRow, hs, h, pending]
      simp only [Bool.false_eq_true, ↓reduceIte, rowCount]
      omega

theorem pending_emit_le (m : GroupedStream) (row : Row) (ss : List (Shard σ)) :
    (m.emit row ss).2.1.pending (m.emit row ss).2.2 ≤ rowCount m.held + m.inner.pending ss := by
  rw [emit]
  split
  · exact Nat.le_refl _
  next group hg =>
    have hle := pending_gather_le m.grouping (m.grouping.keyOf row) group m.inner ss
    split
    next e inner ss' h => simp only [h, pending] at hle ⊢; omega
    next group' held inner ss' h =>
      simp only [h] at hle
      split
      · simp only [pending]; omega
      · simp only [pending]; omega

theorem pending_advance_le (m : GroupedStream) (ss : List (Shard σ)) :
    (m.advance ss).2.1.pending (m.advance ss).2.2 ≤ m.pending ss := by
  have hle := m.pending_firstRow_le ss
  rw [advance]
  split
  next e m' ss' h => simp only [h, pending] at hle ⊢; omega
  next m' ss' h => simp only [h, pending, rowCount] at hle ⊢; omega
  next row m' ss' h =>
    have := m'.pending_emit_le row ss'
    simp only [h, pending, rowCount] at hle this ⊢
    omega

theorem pending_advance_lt {m m' : GroupedStream} {ss ss' : List (Shard σ)}
    (h : m.advance ss = (.ok true, m', ss')) : m'.pending ss' < m.pending ss := by
  have hle := m.pending_firstRow_le ss
  rw [advance] at h
  split at h
  · cases h
  · cases h
  next row m₁ ss₁ h₁ =>
    have := m₁.pending_emit_le row ss₁
    simp only [h, h₁, pending, rowCount] at hle this ⊢
    omega

end GroupedStream

end Confluence
