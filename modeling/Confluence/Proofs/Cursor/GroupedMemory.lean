import Confluence.Proofs.Cursor.Open
import Confluence.Proofs.Merge.GroupedMemory
import Mathlib.Data.List.Permutation

/-!
# Cursors over groups in memory

A grouped cursor that merges in memory drains to one row for each group of the rows of all sources,
in the order of the statement. The row of a group is its first row with the results of its
aggregates, each of them fed with all members of the group, and groups that tie stand in the order
in which they were first seen.
-/

namespace Confluence

variable {labels : List String} {sources : List MemorySource} {b : BoundShape} {config : Config}
  {shape : Shape}

namespace Grouping

variable {g : Grouping}

/-- Without group columns all rows are in one group. -/
lemma length_firstRows_of_groupColumns_eq_nil (h : g.groupColumns = []) (rows : List Row) :
    (g.firstRows rows).length = min 1 rows.length := by
  have hsame (a b : Row) : g.same a b = true := by simp [same, keyOf, h, GroupKey.same]
  cases rows with
  | nil => rfl
  | cons a rows =>
    have hnone : (rows.filter fun r => g.same r a = false) = [] := by simp [hsame]
    rw [firstRows_cons, hnone]
    simp [firstRows]

end Grouping

lemma MemorySource.Fresh.length_of_mem_flatMap (hfresh : ∀ s ∈ sources, s.Fresh labels) :
    ∀ r ∈ sources.flatMap (·.rows), r.length = labels.length := by
  intro r hr
  obtain ⟨s, hs, hr⟩ := List.mem_flatMap.mp hr
  exact (hfresh s hs).full r hr

/-- The rows drained from fresh sources have a cell for each label. -/
lemma GroupedMemory.length_of_mem_drain {m : GroupedMemory} {out : List Row}
    (hfresh : ∀ s ∈ sources, s.Fresh labels) (hwidth : m.grouping.columnCount = labels.length)
    (hexact : ∀ r ∈ sources.flatMap (·.rows), m.grouping.Exact r)
    (h : (m.drain (Cursor.numberShards 0 sources)).1 = .ok out) :
    ∀ r ∈ out, r.length = labels.length := by
  intro r hr
  obtain ⟨merged, hmerged, -, rfl⟩ :=
    of_drain_eq_ok (V := MemorySource.view labels.length) hwidth
      (Cursor.queued_numberShards hfresh 0) hexact h
  exact hmerged.length_eq (MemorySource.Fresh.length_of_mem_flatMap hfresh) r
    ((List.mergeSort_perm _ _).mem_iff.mp hr)

namespace Cursor

/-- A cursor over a merge in memory drains to the rows that the merge drains, or to its failure. -/
lemma drain_of_memory {σ : Type} [RowSource σ] {c : Cursor σ} {m : GroupedMemory} {n : Nat}
    {ss : List (Shard σ)} (hover : c.Over n (.groupedMemory m) ss) (hrows : m.rows = none)
    (hlen : ∀ out, (m.drain ss).1 = .ok out → ∀ r ∈ out, r.length = n) :
    c.drain.1 = match (m.drain ss).1 with
      | .ok out => (out, none)
      | .error e => ([], some e) := by
  cases hd : (m.drain ss).1 with
  | error e => exact drain_of_emits (GroupedMemory.emits_of_drain_eq_error hrows hd) hover
  | ok out => exact drain_of_emits (GroupedMemory.emits_of_drain_eq_ok hrows hd (hlen out hd)) hover

lemma drain_eq_iff_of_memory {c : Cursor MemorySource} {m : GroupedMemory} {n : Nat}
    {ss : List (Shard MemorySource)} {out : List Row} (hover : c.Over n (.groupedMemory m) ss)
    (hrows : m.rows = none)
    (hlen : ∀ out, (m.drain ss).1 = .ok out → ∀ r ∈ out, r.length = n) :
    c.drain.1 = (out, none) ↔ (m.drain ss).1 = .ok out := by
  rw [drain_of_memory hover hrows hlen]
  cases (m.drain ss).1 <;> simp

lemma strategy_of_merge {c : Cursor MemorySource} (hne : sources ≠ [])
    (hfresh : ∀ s ∈ sources, s.Fresh labels)
    (hbind : BoundShape.bind (.ofLabels labels) shape = .ok b) (hlimit : shape.limit = none)
    (hmerge : Cursor.merge config shape sources = .ok c) :
    c.strategy = Strategy.choose config b := by
  obtain ⟨c', hmerge', hover⟩ := exists_merge config hne hfresh hbind hlimit
  rw [hmerge] at hmerge'
  cases hmerge'
  rw [strategy, hover.merger_eq]
  cases Strategy.choose config b <;> rfl

/-- The merge that collects the groups of a bound shape in memory. -/
def memoryMerge (config : Config) (b : BoundShape) : GroupedMemory :=
  { config, grouping := .ofShape b config.averageScale, order := b.effectiveOrder }

/-- What a cursor over groups in memory drains is what its merge drains. -/
lemma memoryMerge_drain_of_drain {c : Cursor MemorySource} {out : List Row} (hne : sources ≠ [])
    (hfresh : ∀ s ∈ sources, s.Fresh labels)
    (hbind : BoundShape.bind (.ofLabels labels) shape = .ok b) (hlimit : shape.limit = none)
    (hmerge : Cursor.merge config shape sources = .ok c) (hstrategy : c.strategy = .groupedMemory)
    (hexact : ∀ r ∈ sources.flatMap (·.rows), (Grouping.ofShape b config.averageScale).Exact r)
    (hdrain : c.drain.1 = (out, none)) :
    ((memoryMerge config b).drain (numberShards 0 sources)).1 = .ok out := by
  have hchoose := strategy_of_merge hne hfresh hbind hlimit hmerge
  rw [hstrategy] at hchoose
  obtain ⟨c', hmerge', hover⟩ := exists_merge config hne hfresh hbind hlimit
  rw [hmerge] at hmerge'
  cases hmerge'
  rw [← hchoose] at hover
  have hwidth : b.columnCount = labels.length :=
    (BoundShape.within_of_bind_ofLabels hbind).columnCount_eq
  refine (drain_eq_iff_of_memory (m := memoryMerge config b) hover rfl fun out hd => ?_).mp hdrain
  exact GroupedMemory.length_of_mem_drain (m := memoryMerge config b) hfresh hwidth hexact hd

/-- A cursor over groups in memory drains to the finished rows of all groups, sorted. -/
lemma finished_of_drain {c : Cursor MemorySource} {out : List Row} (hne : sources ≠ [])
    (hfresh : ∀ s ∈ sources, s.Fresh labels)
    (hbind : BoundShape.bind (.ofLabels labels) shape = .ok b) (hlimit : shape.limit = none)
    (hmerge : Cursor.merge config shape sources = .ok c) (hstrategy : c.strategy = .groupedMemory)
    (hexact : ∀ r ∈ sources.flatMap (·.rows), (Grouping.ofShape b config.averageScale).Exact r)
    (hdrain : c.drain.1 = (out, none)) :
    ∃ merged, (Grouping.ofShape b config.averageScale).Finished (sources.flatMap (·.rows)) merged ∧
      out = b.effectiveOrder.sort merged := by
  have hmemory :=
    memoryMerge_drain_of_drain hne hfresh hbind hlimit hmerge hstrategy hexact hdrain
  obtain ⟨merged, hmerged, -, hout⟩ :=
    GroupedMemory.of_drain_eq_ok (V := MemorySource.view labels.length) (m := memoryMerge config b)
      (BoundShape.within_of_bind_ofLabels hbind).columnCount_eq (queued_numberShards hfresh 0) hexact
      hmemory
  exact ⟨merged, hmerged, hout⟩

/-- A merge of grouped rows in memory opens and shows the finished rows of all groups, sorted. -/
lemma exists_merge_of_memory {σ : Type} [RowSource σ] {V : SourceView σ} {sources : List σ}
    {queues : List (List Row)} {merged : List Row} (hwidth : V.width = labels.length)
    (hne : sources ≠ []) (hlabels : ∀ s ∈ sources, Labelled labels s)
    (hshows : List.Forall₂ (fun s q => V.Shows s none q) sources queues)
    (hbind : BoundShape.bind (.ofLabels labels) shape = .ok b) (hlimit : shape.limit = none)
    (hchoose : Strategy.choose config b = .groupedMemory)
    (hexact : ∀ r ∈ queues.flatten, (Grouping.ofShape b config.averageScale).Exact r)
    (hlen : ∀ r ∈ queues.flatten, r.length = labels.length)
    (hfit : ∀ n ≤ queues.flatten.length, config.exceedsBufferLimit n = false)
    (hmerged : (Grouping.ofShape b config.averageScale).Finished queues.flatten merged)
    (huniform : b.effectiveOrder.Uniform merged) :
    ∃ c, Cursor.merge config shape sources = .ok c ∧ Labelled labels c ∧
      (view V).Shows c none (b.effectiveOrder.sort merged) := by
  obtain ⟨c, hmerge, hlabelled, hphase, hover⟩ :=
    exists_merge_of_labelled config hne hlabels hbind hlimit
  have hcount : (memoryMerge config b).grouping.columnCount = V.width :=
    (BoundShape.within_of_bind_ofLabels hbind).columnCount_eq.trans hwidth.symm
  have hdrain := GroupedMemory.drain_eq_ok (m := memoryMerge config b) hcount
    (queued_of_shows hshows 0) hexact hfit hmerged huniform
  have hrows : ∀ r ∈ b.effectiveOrder.sort merged, r.length = V.width := by
    intro r hr
    rw [hwidth]
    exact hmerged.length_eq hlen r ((List.mergeSort_perm _ _).mem_iff.mp hr)
  rw [hchoose, ← hwidth] at hover
  exact ⟨c, hmerge, hlabelled,
    view_shows_of_over hover hphase (GroupedMemory.delivers_of_drain_eq_ok rfl hdrain hrows)⟩

/-- The rows that a cursor over groups in memory drains to are the finished rows of all groups of
the rows of its sources, in a stable sort. -/
theorem grouped_memory_drain_spec {c : Cursor MemorySource} {out : List Row} (hne : sources ≠ [])
    (hfresh : ∀ s ∈ sources, s.Fresh labels)
    (hbind : BoundShape.bind (.ofLabels labels) shape = .ok b) (hlimit : shape.limit = none)
    (hmerge : Cursor.merge config shape sources = .ok c) (hstrategy : c.strategy = .groupedMemory)
    (hexact : ∀ r ∈ sources.flatMap (·.rows), b.groupBy.Exact r)
    (hsort : ∀ r ∈ out, b.effectiveOrder.Exact r) (hdrain : c.drain.1 = (out, none)) :
    let g := Grouping.ofShape b config.averageScale
    let rows := sources.flatMap (·.rows)
    ∃ merged, List.Forall₂ (g.IsMerged rows) (g.firstRows rows) merged ∧
      IsStableSort b.effectiveOrder.compareRows merged out ∧
      (b.groupBy = [] → out.length = min 1 rows.length) := by
  intro g rows
  have hg (r : Row) (hr : r ∈ rows) : g.Exact r := by
    intro i hi
    obtain ⟨t, ht, rfl⟩ := List.mem_map.mp hi
    exact hexact r hr t ht
  obtain ⟨merged, hmerged, rfl⟩ :=
    finished_of_drain hne hfresh hbind hlimit hmerge hstrategy hg hdrain
  have hspec : List.Forall₂ (g.IsMerged rows) (g.firstRows rows) merged :=
    hmerged.imp fun _ _ h => Grouping.isMerged_of_mergedRow h
  have hperm : (b.effectiveOrder.sort merged).Perm merged := List.mergeSort_perm _ _
  refine ⟨merged, hspec, RowOrder.isStableSort_sort fun r hr => ?_, fun hnil => ?_⟩
  · exact hsort r (hperm.mem_iff.mpr hr)
  · rw [hperm.length_eq, ← hspec.length_eq]
    refine Grouping.length_firstRows_of_groupColumns_eq_nil ?_ rows
    rw [show g.groupColumns = b.groupBy.columns from rfl, hnil]
    rfl

/-- Two sources with a group in common. -/
def sharedGroupSources : List MemorySource :=
  [{ labels := ["k", "n"], rows := [[.text "a", .int64 ⟨1, by decide⟩], [.text "b", .null]] },
    { labels := ["k", "n"], rows := [[.text "a", .int64 ⟨2, by decide⟩]] }]

lemma fresh_of_mem_sharedGroupSources : ∀ s ∈ sharedGroupSources, s.Fresh ["k", "n"] := by
  rw [sharedGroupSources, List.forall_mem_cons, List.forall_mem_singleton]
  exact ⟨⟨rfl, by decide, rfl, rfl⟩, ⟨rfl, by decide, rfl, rfl⟩⟩

/-- The greatest value of each group; a group that has none goes first. -/
theorem grouped_memory_drain_of_shared_group :
    let shape : Shape :=
      { groupBy := [⟨.index 1, .asc, .first⟩], orderBy := [⟨.index 2, .asc, .first⟩],
        aggregates := [.of .max (.index 2)] }
    let g : Grouping := ⟨2, [0], [⟨.max, 1, [1]⟩], Config.defaultAverageScale⟩
    let o : RowOrder := [⟨1, .asc, .first⟩]
    let rows := sharedGroupSources.flatMap (·.rows)
    let out : List Row := [[.text "b", .null], [.text "a", .int64 ⟨2, by decide⟩]]
    (∃ c, Cursor.merge {} shape sharedGroupSources = .ok c ∧ c.drain.1 = (out, none)) ∧
      ∃ merged, List.Forall₂ (g.IsMerged rows) (g.firstRows rows) merged ∧
        IsStableSort o.compareRows merged out := by
  intro shape g o rows out
  have hbind : BoundShape.bind (.ofLabels ["k", "n"]) shape =
      .ok ⟨2, [⟨0, .asc, .first⟩], o, [⟨.max, 1, [1]⟩]⟩ := rfl
  have hfresh := fresh_of_mem_sharedGroupSources
  obtain ⟨c, hmerge, hover⟩ := exists_merge {} (List.cons_ne_nil _ _) hfresh hbind rfl
  have hstrategy : c.strategy = .groupedMemory := by
    rw [strategy, hover.merger_eq]
    rfl
  let m : GroupedMemory := { config := {}, grouping := g, order := o }
  have hout : (m.drain (numberShards 0 sharedGroupSources)).1 = .ok out := by
    simp only [m, g, o, out]
    cbv
  have hdrain : c.drain.1 = (out, none) :=
    drain_of_emits (GroupedMemory.emits_of_drain_eq_ok rfl hout (by decide)) hover
  obtain ⟨merged, hmerged, hsort, -⟩ := grouped_memory_drain_spec (List.cons_ne_nil _ _) hfresh hbind
    rfl hmerge hstrategy (by decide) (by decide) hdrain
  exact ⟨⟨c, hmerge, hdrain⟩, merged, hmerged, hsort⟩

end Cursor

end Confluence
