import Confluence.Proofs.Group.Choice
import Confluence.Proofs.Group.Promises
import Confluence.Proofs.Merge.GroupedMemory
import Confluence.Proofs.Merge.Walked

/-!
# How many rows a merge in memory reads

As long as its groups take every row, a merge in memory reads its leaves to their ends, unless there
are more rows than may be held. It then gives up at the first row that is too many, so that the rows
read are one more than may be held, taken from the leaves in their order.
-/

namespace Confluence

/-! ### Limits -/

namespace Config

variable {c : Config} {m n : Nat}

lemma exceedsBufferLimit_iff :
    c.exceedsBufferLimit n = true ↔ c.maxRowsBuffered ≠ 0 ∧ c.maxRowsBuffered.toNat < n := by
  simp [exceedsBufferLimit]

lemma exceedsBufferLimit_zero (c : Config) : c.exceedsBufferLimit 0 = false := by
  simp [exceedsBufferLimit]

/-- Fewer rows than may be held may be held. -/
lemma fits_of_le (hle : m ≤ n) (h : c.exceedsBufferLimit n = false) :
    c.exceedsBufferLimit m = false := by
  rw [← Bool.not_eq_true, exceedsBufferLimit_iff] at h ⊢
  exact fun hm => h ⟨hm.1, Nat.lt_of_lt_of_le hm.2 hle⟩

/-- The limit lies between what may be held and what is too much. -/
lemma limit_between (hfit : c.exceedsBufferLimit m = false)
    (hexceeds : c.exceedsBufferLimit n = true) :
    m ≤ c.maxRowsBuffered.toNat ∧ c.maxRowsBuffered.toNat < n := by
  rw [exceedsBufferLimit_iff] at hexceeds
  rw [← Bool.not_eq_true, exceedsBufferLimit_iff] at hfit
  exact ⟨Nat.not_lt.mp fun hlt => hfit ⟨hexceeds.1, hlt⟩, hexceeds.2⟩

end Config

/-! ### Rows that a table takes -/

namespace GroupTable

variable {probing : Probing} {g : Grouping} {t t' : GroupTable} {rows : List Row}

/-- Add rows to a table one by one, however many there are. -/
def addAll (probing : Probing) (g : Grouping) (t : GroupTable) (rows : List Row) :
    Except Failure GroupTable :=
  rows.foldlM (add probing g) t

lemma exists_of_addAll_cons {r : Row} (h : t.addAll probing g (r :: rows) = .ok t') :
    ∃ t₁, t.add probing g r = .ok t₁ ∧ t₁.addAll probing g rows = .ok t' := by
  rw [addAll, List.foldlM_cons] at h
  exact exists_of_bind_eq_ok h

lemma exists_of_addAll_append {rows' : List Row} (h : t.addAll probing g (rows ++ rows') = .ok t') :
    ∃ t₁, t.addAll probing g rows = .ok t₁ ∧ t₁.addAll probing g rows' = .ok t' := by
  rw [addAll, List.foldlM_append] at h
  exact exists_of_bind_eq_ok h

lemma rows_of_addAll (h : t.addAll probing g rows = .ok t') : t'.rows = t.rows + rows.length := by
  induction rows generalizing t with
  | nil =>
    cases h
    rfl
  | cons r rows ih =>
    obtain ⟨t₁, hadd, hrest⟩ := exists_of_addAll_cons h
    rw [ih hrest, rows_of_add hadd, List.length_cons]
    omega

lemma Fits.addAll (h : t.Fits g) (hlen : ∀ r ∈ rows, r.length = g.columnCount)
    (hadd : t.addAll probing g rows = .ok t') : t'.Fits g := by
  induction rows generalizing t with
  | nil =>
    cases hadd
    exact h
  | cons r rows ih =>
    rw [List.forall_mem_cons] at hlen
    obtain ⟨t₁, hr, hrest⟩ := exists_of_addAll_cons hadd
    exact ih (h.add hlen.1 hr) hlen.2 hrest

/-- Where no cell is rounded, all ways of probing add some rows to the same groups. -/
lemma KeysApart.addAll {P : Nat → Cell → Prop} (h : t.KeysApart P g)
    (hP : ∀ i ∈ g.groupColumns, Cell.NeverRounded (P i))
    (hrows : ∀ r ∈ rows, List.Forall₂ P g.groupColumns (g.keyOf r)) (probing' : Probing)
    (hadd : t.addAll probing g rows = .ok t') : t.addAll probing' g rows = .ok t' := by
  induction rows generalizing t with
  | nil => exact hadd
  | cons r rows ih =>
    rw [List.forall_mem_cons] at hrows
    obtain ⟨t₁, hr, hrest⟩ := exists_of_addAll_cons hadd
    have hrest' := ih (h.add hrows.1 hr) hrows.2 hrest
    rw [h.add_eq hP hrows.1 probing probing'] at hr
    rw [GroupTable.addAll, List.foldlM_cons, hr]
    exact hrest'

/-- Finished rows have a cell for each column. -/
lemma Fits.length_of_finish (h : t.Fits g) {out : List Row} (hfinish : t.finish g = .ok out) :
    ∀ r ∈ out, r.length = g.columnCount := by
  rw [finish, mapM_eq_ok_iff] at hfinish
  intro r hr
  obtain ⟨p, hp, hrow⟩ := exists_mem_of_forall₂ hfinish hr
  have hlen := (BoundAggregate.of_write_eq_ok (h p hp).functions hrow).1
  exact hlen.trans (h p hp).length_eq

end GroupTable

/-! ### One leaf -/

namespace Stepped

variable {a : ScriptedSource} {k p : Nat} {s : Shard ScriptedSource} {r : Row}

/-- A shard in front of one of its rows moves to it, and reading the row leaves it there. -/
lemma exists_readRow (hscript : a.script = {}) (h : Stepped a k p s)
    (hr : a.memory.rows[p]? = some r) :
    ∃ s₁ s₂, s.advance = (.ok true, s₁) ∧ Stepped a k (p + 1) s₁ ∧
      s₁.readRow r.length = (.ok r, s₂) ∧ Stepped a k (p + 1) s₂ := by
  obtain ⟨hlt, -⟩ := List.getElem?_eq_some_iff.mp hr
  obtain ⟨s₁, hadv, h₁⟩ := h.advance_row (.of_empty hscript) hlt
  have hread := h₁.readColumns hr (List.range r.length)
  rcases hs₂ : s₁.readColumns (List.range r.length) with ⟨e | cells, s₂⟩
  · rcases hread.of_eq_error hs₂ with hvalue | ⟨i, hi, hlen⟩
    · exact absurd (.of_empty hscript) hvalue
    · exact absurd (List.mem_range.mp hi) (Nat.not_lt.mpr hlen)
  · obtain ⟨rfl, h₂⟩ := hread.of_eq_ok hs₂
    rw [Row.map_cell_range rfl] at hs₂
    exact ⟨s₁, s₂, hadv, h₁, hs₂, h₂⟩

end Stepped

/-! ### Shares of leaves -/

/-- How many of the first `n` rows of all leaves each of them has. -/
def sharesOfFirst (n : Nat) : List ScriptedSource → List Nat
  | [] => []
  | a :: sources => min n a.memory.rows.length :: sharesOfFirst (n - a.memory.rows.length) sources

lemma sharesOfFirst_of_le {n : Nat} {sources : List ScriptedSource}
    (h : (sources.flatMap (·.memory.rows)).length ≤ n) :
    sharesOfFirst n sources = sources.map (·.memory.rows.length) := by
  induction sources generalizing n with
  | nil => rfl
  | cons a sources ih =>
    rw [List.flatMap_cons, List.length_append] at h
    rw [sharesOfFirst, List.map_cons, Nat.min_eq_right (by omega), ih (by omega)]

lemma sum_sharesOfFirst {n : Nat} {sources : List ScriptedSource}
    (h : n ≤ (sources.flatMap (·.memory.rows)).length) : (sharesOfFirst n sources).sum = n := by
  induction sources generalizing n with
  | nil => exact (Nat.le_zero.mp h).symm
  | cons a sources ih =>
    rw [List.flatMap_cons, List.length_append] at h
    rw [sharesOfFirst, List.sum_cons, ih (by omega)]
    omega

/-- Steps behind the last row of a leaf come to no row. -/
lemma Walked.rowsRead_eq {k n : Nat} {sources : List ScriptedSource}
    {ss : List (Shard ScriptedSource)} (h : Walked k n sources ss) :
    ss.map (·.source.memory.rowsRead) = sharesOfFirst n sources := by
  induction h with
  | nil => rfl
  | @cons k n a s sources ss hs _ ih =>
    rw [List.map_cons, ih, MemorySource.rowsRead, hs.position_eq, hs.rows_eq, Nat.min_assoc,
      Nat.min_eq_right (Nat.le_succ _)]
    rfl

namespace GroupedMemory

variable {a : ScriptedSource} {sources : List ScriptedSource} {k p : Nat}
  {s : Shard ScriptedSource} {ss : List (Shard ScriptedSource)} {g : Grouping} {t t' : GroupTable}
  {c : Config} {probing : Probing}

/-- One row of draining a leaf: it is read and added, unless it is one row too many. -/
lemma drainShard_row (hscript : a.script = {})
    (hfull : ∀ r ∈ a.memory.rows, r.length = g.columnCount) (h : Stepped a k p s) {r : Row}
    (hr : a.memory.rows[p]? = some r) {t₁ : GroupTable}
    (hadd : t.add probing g r = .ok t₁) :
    ∃ s₁ s₂, Stepped a k (p + 1) s₁ ∧ Stepped a k (p + 1) s₂ ∧ ∀ c : Config, c.probing = probing →
      drainShard c g t s = if c.exceedsBufferLimit t₁.rows then (.error (overflow c), s₁)
        else drainShard c g t₁ s₂ := by
  obtain ⟨s₁, s₂, hadv, h₁, hread, h₂⟩ := h.exists_readRow hscript hr
  rw [hfull r (List.mem_of_getElem? hr)] at hread
  refine ⟨s₁, s₂, h₁, h₂, fun c hc => ?_⟩
  rw [drainShard_def, hadv, GroupTable.rows_of_add hadd, hc]
  simp only [hread, hadd]

/-- A leaf whose rows may all be held is drained to its end. -/
lemma drainShard_of_fits (hscript : a.script = {})
    (hfull : ∀ r ∈ a.memory.rows, r.length = g.columnCount) (h : Stepped a k p s)
    (hp : p ≤ a.memory.rows.length)
    (hadd : t.addAll probing g (a.memory.rows.drop p) = .ok t') :
    ∃ s', Stepped a k (a.memory.rows.length + 1) s' ∧
      ∀ c : Config, c.probing = probing → c.exceedsBufferLimit t'.rows = false →
        drainShard c g t s = (.ok t', s') := by
  generalize hq : a.memory.rows.drop p = q at hadd
  induction q generalizing p s t with
  | nil =>
    obtain rfl : p = a.memory.rows.length := Nat.le_antisymm hp (List.drop_eq_nil_iff.mp hq)
    rw [← Nat.min_eq_left (Nat.le_succ a.memory.rows.length)] at h
    obtain ⟨s', hadv, h'⟩ := h.advance_end (.of_empty hscript) (Nat.le_refl _)
    cases hadd
    refine ⟨s', h', fun c _ _ => ?_⟩
    rw [drainShard_def, hadv]
  | cons r q ih =>
    have hr : a.memory.rows[p]? = some r := by rw [← List.head?_drop, hq, List.head?_cons]
    have hrest : a.memory.rows.drop (p + 1) = q := by rw [← List.tail_drop, hq, List.tail_cons]
    obtain ⟨t₁, hadd₁, hadd₂⟩ := GroupTable.exists_of_addAll_cons hadd
    obtain ⟨s₁, s₂, -, h₂, hrow⟩ := drainShard_row hscript hfull h hr hadd₁
    obtain ⟨s', h', hdrain⟩ := ih h₂ (List.getElem?_eq_some_iff.mp hr).1 hrest hadd₂
    refine ⟨s', h', fun c hc hfit => ?_⟩
    have hfit₁ : c.exceedsBufferLimit t₁.rows = false := by
      refine Config.fits_of_le ?_ hfit
      rw [GroupTable.rows_of_addAll hadd₂]
      exact Nat.le_add_right _ _
    rw [hrow c hc, hfit₁, if_neg Bool.false_ne_true, hdrain c hc hfit]

/-- A leaf with more rows than may be held is drained up to the first row that is too many. -/
lemma drainShard_of_exceeds (hscript : a.script = {})
    (hfull : ∀ r ∈ a.memory.rows, r.length = g.columnCount) (h : Stepped a k p s)
    (hadd : t.addAll c.probing g (a.memory.rows.drop p) = .ok t')
    (hfit : c.exceedsBufferLimit t.rows = false)
    (hexceeds : c.exceedsBufferLimit t'.rows = true) :
    ∃ s', drainShard c g t s = (.error (overflow c), s') ∧
      Stepped a k (p + (c.maxRowsBuffered.toNat + 1 - t.rows)) s' := by
  generalize hq : a.memory.rows.drop p = q at hadd
  induction q generalizing p s t with
  | nil =>
    cases hadd
    cases hfit.symm.trans hexceeds
  | cons r q ih =>
    have hr : a.memory.rows[p]? = some r := by rw [← List.head?_drop, hq, List.head?_cons]
    have hrest : a.memory.rows.drop (p + 1) = q := by rw [← List.tail_drop, hq, List.tail_cons]
    obtain ⟨t₁, hadd₁, hadd₂⟩ := GroupTable.exists_of_addAll_cons hadd
    obtain ⟨s₁, s₂, h₁, h₂, hrow⟩ := drainShard_row hscript hfull h hr hadd₁
    have hrows := GroupTable.rows_of_add hadd₁
    rw [hrow c rfl]
    cases hfirst : c.exceedsBufferLimit t₁.rows with
    | true =>
      have hlimit := Config.limit_between hfit hfirst
      have hone : c.maxRowsBuffered.toNat + 1 - t.rows = 1 := by omega
      rw [hone]
      exact ⟨s₁, if_pos rfl, h₁⟩
    | false =>
      have hlimit := Config.limit_between hfirst hexceeds
      have hmore : p + 1 + (c.maxRowsBuffered.toNat + 1 - t₁.rows) =
          p + (c.maxRowsBuffered.toNat + 1 - t.rows) := by omega
      rw [← hmore]
      obtain ⟨s', hdrain, h'⟩ := ih h₂ hfirst hrest hadd₂
      exact ⟨s', (if_neg Bool.false_ne_true).trans hdrain, h'⟩

/-! ### All leaves -/

/-- Leaves whose rows may all be held are drained to their ends. -/
lemma drainShards_of_fits (hscript : ∀ a ∈ sources, a.script = {})
    (hfull : ∀ a ∈ sources, ∀ r ∈ a.memory.rows, r.length = g.columnCount)
    (h : Walked k 0 sources ss)
    (hadd : t.addAll probing g (sources.flatMap (·.memory.rows)) = .ok t') :
    ∃ ss', Walked k ((sources.flatMap (·.memory.rows)).length + 1) sources ss' ∧
      ∀ c : Config, c.probing = probing → c.exceedsBufferLimit t'.rows = false →
        drainShards c g t ss = (.ok t', ss') := by
  induction sources generalizing k t ss with
  | nil =>
    cases h
    cases hadd
    exact ⟨[], .nil, fun _ _ _ => rfl⟩
  | cons a sources ih =>
    rw [List.forall_mem_cons] at hscript hfull
    cases h with
    | @cons _ _ _ s _ ss hs hss =>
      rw [Nat.zero_min] at hs
      rw [Nat.zero_sub] at hss
      rw [List.flatMap_cons] at hadd ⊢
      obtain ⟨t₁, hadd₁, hadd₂⟩ := GroupTable.exists_of_addAll_append hadd
      obtain ⟨s', hs', hdrain⟩ := drainShard_of_fits hscript.1 hfull.1 hs (Nat.zero_le _) hadd₁
      obtain ⟨ss', hss', hrest⟩ := ih hscript.2 hfull.2 hss hadd₂
      refine ⟨s' :: ss', .cons ?_ ?_, fun c hc hfit => ?_⟩
      · rw [List.length_append, Nat.min_eq_right (by omega)]
        exact hs'
      · rw [List.length_append, Nat.add_assoc, Nat.add_sub_cancel_left]
        exact hss'
      · have hfit₁ : c.exceedsBufferLimit t₁.rows = false := by
          refine Config.fits_of_le ?_ hfit
          rw [GroupTable.rows_of_addAll hadd₂]
          exact Nat.le_add_right _ _
        simp only [drainShards, hdrain c hc hfit₁, hrest c hc hfit]

/-- Of leaves with more rows than may be held, the first rows are read, up to the first one that is
too many. -/
lemma drainShards_of_exceeds (hscript : ∀ a ∈ sources, a.script = {})
    (hfull : ∀ a ∈ sources, ∀ r ∈ a.memory.rows, r.length = g.columnCount)
    (h : Walked k 0 sources ss)
    (hadd : t.addAll c.probing g (sources.flatMap (·.memory.rows)) = .ok t')
    (hfit : c.exceedsBufferLimit t.rows = false) (hexceeds : c.exceedsBufferLimit t'.rows = true) :
    ∃ ss', drainShards c g t ss = (.error (overflow c), ss') ∧
      Walked k (c.maxRowsBuffered.toNat + 1 - t.rows) sources ss' := by
  induction sources generalizing k t ss with
  | nil =>
    cases hadd
    cases hfit.symm.trans hexceeds
  | cons a sources ih =>
    rw [List.forall_mem_cons] at hscript hfull
    cases h with
    | @cons _ _ _ s _ ss hs hss =>
      rw [Nat.zero_min] at hs
      rw [Nat.zero_sub] at hss
      rw [List.flatMap_cons] at hadd
      obtain ⟨t₁, hadd₁, hadd₂⟩ := GroupTable.exists_of_addAll_append hadd
      have hrows := GroupTable.rows_of_addAll hadd₁
      cases hfirst : c.exceedsBufferLimit t₁.rows with
      | true =>
        have hlimit := Config.limit_between hfit hfirst
        obtain ⟨s', hdrain, hs'⟩ :=
          drainShard_of_exceeds hscript.1 hfull.1 hs hadd₁ hfit hfirst
        refine ⟨s' :: ss, ?_, .cons ?_ ?_⟩
        · simp only [drainShards, hdrain]
        · rw [Nat.min_eq_left (by omega), ← Nat.zero_add (_ - _)]
          exact hs'
        · rw [Nat.sub_eq_zero_of_le (by omega)]
          exact hss
      | false =>
        have hlimit := Config.limit_between hfirst hexceeds
        obtain ⟨s', hs', hdrain⟩ := drainShard_of_fits hscript.1 hfull.1 hs (Nat.zero_le _) hadd₁
        obtain ⟨ss', hrest, hss'⟩ := ih hscript.2 hfull.2 hss hadd₂ hfirst
        refine ⟨s' :: ss', ?_, .cons ?_ ?_⟩
        · simp only [drainShards, hdrain c rfl hfirst, hrest]
        · rw [Nat.min_eq_right (by omega)]
          exact hs'
        · have hleft : c.maxRowsBuffered.toNat + 1 - t.rows - a.memory.rows.length =
              c.maxRowsBuffered.toNat + 1 - t₁.rows := by omega
          rw [hleft]
          exact hss'

/-! ### The merge -/

variable {m : GroupedMemory}

/-- Rows that may be held are all read, and the limit makes no difference to the table. -/
lemma drain_of_fits (hscript : ∀ a ∈ sources, a.script = {})
    (hfull : ∀ a ∈ sources, ∀ r ∈ a.memory.rows, r.length = m.grouping.columnCount)
    (h : Walked 0 0 sources ss)
    (hadd : ({} : GroupTable).addAll probing m.grouping (sources.flatMap (·.memory.rows)) = .ok t) :
    ∃ ss', Walked 0 ((sources.flatMap (·.memory.rows)).length + 1) sources ss' ∧
      ∀ config : Config, config.probing = probing →
        config.exceedsBufferLimit (sources.flatMap (·.memory.rows)).length = false →
        ({ m with config } : GroupedMemory).drain ss = (settle m.grouping m.order t, ss') := by
  obtain ⟨ss', hss', hdrain⟩ := drainShards_of_fits hscript hfull h hadd
  refine ⟨ss', hss', fun config hconfig hfit => ?_⟩
  rw [← Nat.zero_add (List.length _), ← GroupTable.rows_of_addAll hadd] at hfit
  rw [drain, hdrain config hconfig hfit]

/-- With more rows than may be held, the merge reads one row more than that. -/
lemma drain_of_exceeds (hscript : ∀ a ∈ sources, a.script = {})
    (hfull : ∀ a ∈ sources, ∀ r ∈ a.memory.rows, r.length = m.grouping.columnCount)
    (h : Walked 0 0 sources ss)
    (hadd : ({} : GroupTable).addAll m.config.probing m.grouping
      (sources.flatMap (·.memory.rows)) = .ok t)
    (hexceeds : m.config.exceedsBufferLimit (sources.flatMap (·.memory.rows)).length = true) :
    ∃ ss', m.drain ss = (.error (overflow m.config), ss') ∧
      Walked 0 (m.config.maxRowsBuffered.toNat + 1) sources ss' := by
  rw [← Nat.zero_add (List.length _), ← GroupTable.rows_of_addAll hadd] at hexceeds
  obtain ⟨ss', hdrain, hss'⟩ := drainShards_of_exceeds hscript hfull h hadd
    (m.config.exceedsBufferLimit_zero) hexceeds
  refine ⟨ss', ?_, hss'⟩
  rw [drain, hdrain]

/-- The first call to advance drains all shards. -/
lemma exists_advance_of_drain {r : Except Failure (List Row)} {ss' : List (Shard ScriptedSource)}
    (hrows : m.rows = none) (hdrain : m.drain ss = (r, ss')) :
    ∃ m', (Merger.groupedMemory m).advance ss = (r.map fun rows => !rows.isEmpty, m', ss') := by
  cases r with
  | error e =>
    refine ⟨.groupedMemory m, ?_⟩
    simp only [Merger.advance, advance, hrows, hdrain]
    rfl
  | ok rows =>
    cases rows with
    | nil => exact ⟨_, by simp only [Merger.advance, advance, hrows, hdrain, pop]; rfl⟩
    | cons row rows => exact ⟨_, by simp only [Merger.advance, advance, hrows, hdrain, pop]; rfl⟩

end GroupedMemory

end Confluence
