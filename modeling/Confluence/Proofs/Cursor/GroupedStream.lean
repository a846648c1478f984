import Confluence.Proofs.Cursor.GroupedMemory
import Confluence.Proofs.Cursor.Ordered
import Confluence.Proofs.Group.Sorted

/-!
# Streaming groups and groups in memory agree

If the sources are sorted by their group columns and the statement orders its result by them, a
grouped cursor drains to the same rows whether it merges as rows come or in memory. Both fail or
neither does: either the group columns mix families, or some group cannot be finished.
-/

namespace Confluence

variable {labels : List String} {sources : List MemorySource} {b : BoundShape} {config : Config}
  {shape : Shape} {rows : List Row}

/-- What makes the groups of some sources fit for streaming: the result is in the order of its
groups, every source is sorted by the group columns, and these hold no floats and no outputs of
aggregates. -/
structure BoundShape.Streamable (b : BoundShape) (sources : List MemorySource) : Prop where
  order_eq : b.orderBy = [] ∨ b.orderBy = b.groupBy
  sorted : ∀ s ∈ sources, s.rows.Pairwise fun x y => (b.groupBy.compareRows x y).isLE
  exact : ∀ r ∈ sources.flatMap (·.rows), b.groupBy.Exact r
  outputs : ∀ a ∈ b.aggregates, a.output ∉ b.groupBy.columns

/-- The rows of all groups in the order of the groups, if there are any to be had: no group column
mixes families, and every group can be finished. -/
def BoundShape.GroupsTo (b : BoundShape) (averageScale : Decimal.Scale) (rows out : List Row) :
    Prop :=
  b.groupBy.Uniform rows ∧
    ∃ merged, (Grouping.ofShape b averageScale).Finished rows merged ∧ out = b.groupBy.sort merged

lemma BoundShape.Streamable.effectiveOrder_eq (h : b.Streamable sources) :
    b.effectiveOrder = b.groupBy := by
  rw [effectiveOrder]
  rcases h.order_eq with ho | ho
  · rw [ho]
    rfl
  · rw [ho, ite_self]

namespace Cursor

/-- A merge of sources opens and drains to some rows without a failure. -/
def Drains (config : Config) (shape : Shape) (sources : List MemorySource) (rows : List Row) :
    Prop :=
  ∃ c, Cursor.merge config shape sources = .ok c ∧ c.drain.1 = (rows, none)

lemma drains_iff {c : Cursor MemorySource} (hc : Cursor.merge config shape sources = .ok c) :
    Drains config shape sources rows ↔ c.drain.1 = (rows, none) := by
  constructor
  · rintro ⟨c', hc', hdrain⟩
    rw [hc] at hc'
    cases hc'
    exact hdrain
  · intro hdrain
    exact ⟨c, hc, hdrain⟩

/-- In memory the sources drain to their groups in order. -/
lemma memory_drains_iff (config : Config) (hne : sources ≠ [])
    (hfresh : ∀ s ∈ sources, s.Fresh labels)
    (hbind : BoundShape.bind (.ofLabels labels) shape = .ok b) (hlimit : shape.limit = none)
    (hgroup : b.groupBy ≠ []) (h : b.Streamable sources) (hstream : config.streamGroupBy = false)
    (hfit : config.maxRowsBuffered = 0 ∨
      (sources.flatMap (·.rows)).length ≤ config.maxRowsBuffered.toNat) :
    Drains config shape sources rows ↔
      b.GroupsTo config.averageScale (sources.flatMap (·.rows)) rows := by
  let g := Grouping.ofShape b config.averageScale
  let m : GroupedMemory := { config, grouping := g, order := b.effectiveOrder }
  have hm : Merger.start config b (Strategy.choose config b) = .groupedMemory m := by
    have hchoose : Strategy.choose config b = .groupedMemory := by
      simp [Strategy.choose, BoundShape.isGrouped, hgroup, hstream]
    rw [hchoose]
    rfl
  have hwidth : g.columnCount = labels.length :=
    (BoundShape.within_of_bind_ofLabels hbind).columnCount_eq
  have hqueued := queued_numberShards hfresh 0
  have hg (r : Row) (hr : r ∈ sources.flatMap (·.rows)) : g.Exact r :=
    (Grouping.exact_iff rfl).mpr (h.exact r hr)
  have horder : m.order = b.groupBy := h.effectiveOrder_eq
  obtain ⟨c, hc, hover⟩ := exists_merge config hne hfresh hbind hlimit
  rw [hm] at hover
  rw [drains_iff hc, drain_eq_iff_of_memory hover rfl fun out hd =>
    GroupedMemory.length_of_mem_drain (m := m) hfresh hwidth hg hd]
  constructor
  · intro hd
    obtain ⟨merged, hmerged, huniform, rfl⟩ :=
      GroupedMemory.of_drain_eq_ok (V := MemorySource.view labels.length) (m := m) hwidth hqueued
        hg hd
    rw [horder] at huniform ⊢
    exact ⟨(hmerged.uniform_iff rfl h.outputs h.exact).mp huniform, merged, hmerged, rfl⟩
  · rintro ⟨huniform, merged, hmerged, rfl⟩
    have hfit' (n : Nat) (hn : n ≤ (sources.flatMap (·.rows)).length) :
        config.exceedsBufferLimit n = false := by
      rcases hfit with hzero | hle
      · simp [Config.exceedsBufferLimit, hzero]
      · simp [Config.exceedsBufferLimit, Nat.le_trans hn hle]
    rw [← hmerged.uniform_iff rfl h.outputs h.exact, ← horder] at huniform
    rw [← horder]
    exact GroupedMemory.drain_eq_ok (V := MemorySource.view labels.length) (m := m) hwidth hqueued
      hg hfit' hmerged huniform

/-- As they come the sources drain to their groups in order. -/
lemma stream_drains_iff (config : Config) (hne : sources ≠ [])
    (hfresh : ∀ s ∈ sources, s.Fresh labels)
    (hbind : BoundShape.bind (.ofLabels labels) shape = .ok b) (hlimit : shape.limit = none)
    (hgroup : b.groupBy ≠ []) (h : b.Streamable sources) (hstream : config.streamGroupBy = true) :
    Drains config shape sources rows ↔
      b.GroupsTo config.averageScale (sources.flatMap (·.rows)) rows := by
  let g := Grouping.ofShape b config.averageScale
  let m : GroupedStream := { inner := .new b.groupBy, grouping := g }
  have hm : Merger.start config b (Strategy.choose config b) = .groupedStream m := by
    have hchoose : Strategy.choose config b = .groupedStream := by
      simp [Strategy.choose, BoundShape.isGrouped, BoundShape.arrivesGrouped, hgroup, hstream,
        h.effectiveOrder_eq]
    rw [hchoose]
    rfl
  have hwithin := BoundShape.within_of_bind_ofLabels hbind
  have hwidth : g.columnCount = labels.length := hwithin.columnCount_eq
  obtain ⟨drawn, e, hinner, hmem, he, hsort⟩ :=
    OrderedMerge.exists_emits_of_fresh hfresh hwithin.groupBy_lt h.sorted h.exact
  rw [← hwidth] at hinner
  have hlen (r : Row) (hr : r ∈ drawn) : r.length = g.columnCount :=
    (MemorySource.Fresh.length_of_mem_flatMap hfresh r (hmem r hr)).trans hwidth.symm
  obtain ⟨out, e', hemits, hok, hprogress⟩ :=
    GroupedStream.exists_emits hlen (GroupedStream.opens_of_emits (m := m) rfl hinner)
  rw [hwidth] at hemits
  obtain ⟨c, hc, hover⟩ := exists_merge config hne hfresh hbind hlimit
  rw [hm] at hover
  rw [drains_iff hc, drain_of_emits hemits hover, Prod.mk.injEq]
  have hruns (he : e = none) : g.runs drawn =
      (g.firstRows drawn).map fun f => (f, g.members drawn f) := by
    have hdrawn := hsort he
    exact Grouping.runs_eq_of_sorted rfl (fun r hr => h.exact r (hmem r hr)) hdrawn.sorted
  have hfinished (he' : e' = none) : g.Finished drawn out := by
    obtain ⟨he, hout⟩ := hok he'
    rwa [hruns he, List.forall₂_map_left_iff] at hout
  constructor
  · rintro ⟨rfl, he'⟩
    have hnone := (hok he').1
    have hdrawn := hsort hnone
    obtain ⟨merged, hmerged⟩ :=
      (Grouping.exists_finished_congr rfl h.exact hdrawn).mp ⟨out, hfinished he'⟩
    refine ⟨he.mp hnone, merged, hmerged, ?_⟩
    exact hmerged.eq_sort rfl h.outputs h.exact hdrawn (hfinished he')
  · rintro ⟨huniform, merged, hmerged, rfl⟩
    have hnone := he.mpr huniform
    have hdrawn := hsort hnone
    have hall := (Grouping.exists_finished_congr rfl h.exact hdrawn).mpr ⟨merged, hmerged⟩
    rw [Grouping.exists_finished_iff] at hall
    have he' : e' = none := by
      refine hprogress hnone ?_
      rw [hruns hnone, List.forall_mem_map]
      exact hall
    exact ⟨hmerged.eq_sort rfl h.outputs h.exact hdrawn (hfinished he'), he'⟩

/-- Sources that are sorted by their group columns drain to the same rows, or fail both times,
whether their groups are streamed or collected in memory. -/
theorem stream_drains_iff_memory_drains (hne : sources ≠ [])
    (hfresh : ∀ s ∈ sources, s.Fresh labels) (hgroup : shape.groupBy ≠ [])
    (hlimit : shape.limit = none)
    (h : ∀ b, BoundShape.bind (.ofLabels labels) shape = .ok b → b.Streamable sources)
    (hfit : config.maxRowsBuffered = 0 ∨
      (sources.flatMap (·.rows)).length ≤ config.maxRowsBuffered.toNat) (rows : List Row) :
    Drains { config with streamGroupBy := true } shape sources rows ↔
      Drains { config with streamGroupBy := false } shape sources rows := by
  cases hbind : BoundShape.bind (.ofLabels labels) shape with
  | error e =>
    constructor
    · rintro ⟨c, hc, -⟩
      exact absurd hc (merge_ne_ok _ hne hfresh hbind c)
    · rintro ⟨c, hc, -⟩
      exact absurd hc (merge_ne_ok _ hne hfresh hbind c)
  | ok b =>
    have hb : b.groupBy ≠ [] := mt (BoundShape.groupBy_eq_nil_iff_of_bind hbind).mp hgroup
    have hb' := h b hbind
    refine (stream_drains_iff _ hne hfresh hbind hlimit hb hb' rfl).trans ?_
    exact (memory_drains_iff { config with streamGroupBy := false } hne hfresh hbind hlimit hb hb' rfl
      hfit).symm

/-- The greatest value of each group, with the groups in order, from both merges. -/
theorem drains_of_shared_group :
    let shape : Shape :=
      { groupBy := [⟨.index 1, .asc, .first⟩], aggregates := [.of .max (.index 2)] }
    let out : List Row := [[.text "a", .int64 ⟨2, by decide⟩], [.text "b", .null]]
    Drains { ({} : Config) with streamGroupBy := true } shape sharedGroupSources out ∧
      Drains { ({} : Config) with streamGroupBy := false } shape sharedGroupSources out := by
  intro shape out
  let o : RowOrder := [⟨0, .asc, .first⟩]
  let b : BoundShape := ⟨2, o, [], [⟨.max, 1, [1]⟩]⟩
  have hbind : BoundShape.bind (.ofLabels ["k", "n"]) shape = .ok b := rfl
  have hstreamable (b' : BoundShape) (h : BoundShape.bind (.ofLabels ["k", "n"]) shape = .ok b') :
      b'.Streamable sharedGroupSources := by
    rw [hbind] at h
    cases h
    exact ⟨Or.inl rfl, by decide, by decide, by decide⟩
  have hfresh := fresh_of_mem_sharedGroupSources
  have hagree := @stream_drains_iff_memory_drains ["k", "n"] sharedGroupSources {} shape
    (List.cons_ne_nil _ _) hfresh (List.cons_ne_nil _ _) rfl hstreamable (Or.inr (by decide)) out
  let m : GroupedMemory :=
    { config := { streamGroupBy := false }, grouping := .ofShape b Config.defaultAverageScale,
      order := o }
  have hdrain : (m.drain (numberShards 0 sharedGroupSources)).1 = .ok out := by
    simp only [m, o, b, out]
    cbv
  have hmemory : Drains { ({} : Config) with streamGroupBy := false } shape sharedGroupSources out := by
    obtain ⟨c, hc, hover⟩ :=
      exists_merge { streamGroupBy := false } (List.cons_ne_nil _ _) hfresh hbind rfl
    exact ⟨c, hc,
      drain_of_emits (GroupedMemory.emits_of_drain_eq_ok (m := m) rfl hdrain (by decide)) hover⟩
  exact ⟨hagree.mpr hmemory, hmemory⟩

end Cursor

end Confluence
