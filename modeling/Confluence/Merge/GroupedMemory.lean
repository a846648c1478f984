import Confluence.Config.Basic
import Confluence.Group.Table
import Confluence.Sort.Guard
import Confluence.Source.Shard

/-!
# Grouped merge in memory

If nothing is known of the order in which rows arrive, all shards are drained into a table of
groups before the first group goes out. The finished rows are sorted; rows that are equal under the
order stay in the order in which their groups were first seen.
-/

set_option linter.unusedVariables false

namespace Confluence

structure GroupedMemory where
  config : Config
  grouping : Grouping
  order : RowOrder
  /-- The rows that are still to go out, once the shards are drained. -/
  rows : Option (List Row) := none
  current : Option Row := none
  groupsBuilt : Nat := 0

namespace GroupedMemory

variable {σ : Type} [RowSource σ]

/-- The failure to hold more rows than the configuration allows. -/
def overflow (c : Config) : Failure :=
  .resourceExhausted
    ("group-by merge buffered more than " ++ toString c.maxRowsBuffered.toNat ++ " rows") 0

/-- Drain one shard into a table. -/
def drainShard (c : Config) (g : Grouping) (t : GroupTable) (s : Shard σ) :
    Except Failure GroupTable × Shard σ :=
  match h : s.advance with
  | (.error e, s') => (.error e, s')
  | (.ok false, s') => (.ok t, s')
  | (.ok true, s') =>
    if c.exceedsBufferLimit (t.rows + 1) then (.error (overflow c), s')
    else
      match h' : s'.readRow g.columnCount with
      | (.error e, s'') => (.error e, s'')
      | (.ok row, s'') =>
        match t.add c.probing g row with
        | .error e => (.error e, s'')
        | .ok t => drainShard c g t s''
termination_by s.remaining
decreasing_by
  have hlt := Shard.remaining_advance_lt h
  have hle := s'.remaining_readRow_le g.columnCount
  simp only [h'] at hle
  omega

/-- One step of draining a shard, without the proof that it ends. -/
theorem drainShard_def (c : Config) (g : Grouping) (t : GroupTable) (s : Shard σ) :
    drainShard c g t s =
      match s.advance with
      | (.error e, s') => (.error e, s')
      | (.ok false, s') => (.ok t, s')
      | (.ok true, s') =>
        if c.exceedsBufferLimit (t.rows + 1) then (.error (overflow c), s')
        else
          match s'.readRow g.columnCount with
          | (.error e, s'') => (.error e, s'')
          | (.ok row, s'') =>
            match t.add c.probing g row with
            | .error e => (.error e, s'')
            | .ok t => drainShard c g t s'' := by
  rw [drainShard]
  split
  next h => rw [h]
  next h => rw [h]
  next h =>
    rw [h]
    simp only
    split
    · rfl
    · split <;> next h' => simp only [h']

/-- Drain all shards, one after the other. -/
def drainShards (c : Config) (g : Grouping) (t : GroupTable) :
    List (Shard σ) → Except Failure GroupTable × List (Shard σ)
  | [] => (.ok t, [])
  | s :: ss =>
    match drainShard c g t s with
    | (.error e, s) => (.error e, s :: ss)
    | (.ok t, s) =>
      match drainShards c g t ss with
      | (r, ss) => (r, s :: ss)

/-- The rows of a table, finished, checked and sorted. -/
def settle (g : Grouping) (o : RowOrder) (t : GroupTable) : Except Failure (List Row) :=
  match t.finish g with
  | .error e => .error e
  | .ok rows =>
    match (TypeGuard.new o).acceptAll (rows.map o.keyOf) with
    | (.error e, _) => .error e
    | (.ok (), _) => .ok (o.sort rows)

/-- All rows of the result, once the shards are drained. -/
def drain (m : GroupedMemory) (ss : List (Shard σ)) :
    Except Failure (List Row) × List (Shard σ) :=
  match drainShards m.config m.grouping {} ss with
  | (.error e, ss) => (.error e, ss)
  | (.ok t, ss) => (settle m.grouping m.order t, ss)

/-- Take the next row off the front. -/
def pop (m : GroupedMemory) : List Row → Bool × GroupedMemory
  | [] => (false, { m with rows := some [], current := none })
  | row :: rows => (true, { m with rows := some rows, current := some row })

/-- Move to the row of the next group. -/
def advance (m : GroupedMemory) (ss : List (Shard σ)) :
    Except Failure Bool × GroupedMemory × List (Shard σ) :=
  match m.rows with
  | some rows =>
    let (r, m) := m.pop rows
    (.ok r, m, ss)
  | none =>
    match m.drain ss with
    | (.error e, ss) => (.error e, m, ss)
    | (.ok rows, ss) =>
      let (r, m) := { m with groupsBuilt := rows.length }.pop rows
      (.ok r, m, ss)

/-! ### Rows to come -/

/-- A bound on the groups still to come. -/
def pending (m : GroupedMemory) (ss : List (Shard σ)) : Nat :=
  (m.rows.getD []).length + Shard.totalRemaining ss

theorem remaining_drainShard_le (c : Config) (g : Grouping) (t : GroupTable) (s : Shard σ) :
    (match (drainShard c g t s).1 with
      | .ok t' => t'.groups.length
      | .error _ => 0) + (drainShard c g t s).2.remaining ≤ t.groups.length + s.remaining := by
  fun_induction drainShard c g t s with
  | case1 t s e s' h =>
    have := s.remaining_advance_le
    simp only [h] at this
    simp only
    omega
  | case2 t s s' h =>
    have := s.remaining_advance_le
    simp only [h] at this
    simp only
    omega
  | case3 t s s' h _ =>
    have := Shard.remaining_advance_lt h
    simp only
    omega
  | case4 t s s' h _ e s'' h' =>
    have := Shard.remaining_advance_lt h
    have hr := s'.remaining_readRow_le g.columnCount
    simp only [h'] at hr
    simp only
    omega
  | case5 t s s' h _ row s'' h' e _ =>
    have := Shard.remaining_advance_lt h
    have hr := s'.remaining_readRow_le g.columnCount
    simp only [h'] at hr
    simp only
    omega
  | case6 t s s' h _ row s'' h' t' ht ih =>
    have := Shard.remaining_advance_lt h
    have hr := s'.remaining_readRow_le g.columnCount
    have := GroupTable.length_add_le ht
    simp only [h'] at hr
    omega

theorem remaining_drainShards_le (c : Config) (g : Grouping) (t : GroupTable)
    (ss : List (Shard σ)) :
    (match (drainShards c g t ss).1 with
      | .ok t' => t'.groups.length
      | .error _ => 0) + Shard.totalRemaining (drainShards c g t ss).2 ≤
        t.groups.length + Shard.totalRemaining ss := by
  induction ss generalizing t with
  | nil => simp [drainShards]
  | cons s ss ih =>
    have h := remaining_drainShard_le c g t s
    rcases hs : drainShard c g t s with ⟨r, s'⟩
    cases r with
    | error e =>
      simp only [hs] at h
      simp only [drainShards, hs, Shard.totalRemaining_cons]
      omega
    | ok t' =>
      have := ih t'
      simp only [hs] at h
      rcases hd : drainShards c g t' ss with ⟨r, ss'⟩
      simp only [hd] at this
      simp only [drainShards, hs, hd, Shard.totalRemaining_cons]
      omega

theorem length_settle {g : Grouping} {o : RowOrder} {t : GroupTable} {rows : List Row}
    (h : settle g o t = .ok rows) : rows.length = t.groups.length := by
  rw [settle] at h
  split at h
  · cases h
  next rows' hf =>
    split at h
    · cases h
    · cases h
      simp [RowOrder.sort, GroupTable.length_finish hf]

theorem remaining_drain_le (m : GroupedMemory) (ss : List (Shard σ)) :
    (match (m.drain ss).1 with
      | .ok rows => rows.length
      | .error _ => 0) + Shard.totalRemaining (m.drain ss).2 ≤ Shard.totalRemaining ss := by
  have h := remaining_drainShards_le m.config m.grouping {} ss
  rcases hd : drainShards m.config m.grouping {} ss with ⟨r, ss'⟩
  cases r with
  | error e =>
    simp only [hd, List.length_nil] at h
    simp only [drain, hd]
    omega
  | ok t =>
    simp only [hd, List.length_nil] at h
    simp only [drain, hd]
    split
    next rows hs =>
      rw [length_settle hs]
      omega
    next => omega

theorem pending_pop_le (m : GroupedMemory) (rows : List Row) (ss : List (Shard σ)) :
    (m.pop rows).2.pending ss ≤ rows.length + Shard.totalRemaining ss ∧
      ((m.pop rows).1 = true →
        (m.pop rows).2.pending ss < rows.length + Shard.totalRemaining ss) := by
  cases rows with
  | nil => exact ⟨Nat.le_refl _, fun h => nomatch h⟩
  | cons row rows =>
    simp only [pop, pending, Option.getD_some, List.length_cons]
    exact ⟨by omega, fun _ => by omega⟩

theorem pending_advance_le (m : GroupedMemory) (ss : List (Shard σ)) :
    (m.advance ss).2.1.pending (m.advance ss).2.2 ≤ m.pending ss := by
  rw [advance]
  split
  next rows hr => simpa [pending, hr] using (m.pending_pop_le rows ss).1
  next hr =>
    have h := m.remaining_drain_le ss
    split
    next e ss' hd => simp only [hd, pending] at h ⊢; omega
    next rows ss' hd =>
      simp only [hd] at h
      have := (pending_pop_le { m with groupsBuilt := rows.length } rows ss').1
      simp only [pending, hr, Option.getD_none, List.length_nil] at this ⊢
      omega

theorem pending_advance_lt {m m' : GroupedMemory} {ss ss' : List (Shard σ)}
    (h : m.advance ss = (.ok true, m', ss')) : m'.pending ss' < m.pending ss := by
  rw [advance] at h
  split at h
  next rows hr =>
    have hp := (m.pending_pop_le rows ss).2
    rcases hq : m.pop rows with ⟨r, m₁⟩
    simp only [hq] at h hp
    cases h
    simpa [pending, hr] using hp rfl
  next hr =>
    have hd := m.remaining_drain_le ss
    split at h
    · cases h
    next rows ss₁ hr₁ =>
      simp only [hr₁] at hd
      have hp := (pending_pop_le { m with groupsBuilt := rows.length } rows ss₁).2
      rcases hq : ({ m with groupsBuilt := rows.length } : GroupedMemory).pop rows with ⟨r, m₁⟩
      simp only [hq] at h hp
      cases h
      have := hp rfl
      simp only [pending, hr, Option.getD_none, List.length_nil] at this ⊢
      omega

end GroupedMemory

end Confluence
