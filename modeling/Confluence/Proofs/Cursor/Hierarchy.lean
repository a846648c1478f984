import Confluence.Proofs.Cursor.GroupedMemory
import Confluence.Proofs.Group.Hierarchy

/-!
# Grouped merges of grouped merges

Blocks of sources that are merged into groups can be merged into groups once more. As long as all
partial results are exact, this succeeds whenever the merge of all sources does, and comes to the
same groups in the same order, with the same results.
-/

namespace Confluence

/-! ### Rows of blocks -/

namespace Grouping

variable {g : Grouping} {rows out : List Row} {rowss outs : List (List Row)}

/-- There are no more groups than rows. -/
lemma Groups.length_le (h : g.Groups rows out) : out.length ≤ rows.length := by
  obtain ⟨merged, hmerged, hperm⟩ := h
  rw [hperm.length_eq, ← List.Forall₂.length_eq hmerged]
  exact (firstRows_sublist rows).length_le

lemma length_flatten_le (h : List.Forall₂ g.Groups rowss outs) :
    outs.flatten.length ≤ rowss.flatten.length := by
  induction h with
  | nil => exact Nat.le_refl 0
  | cons h _ ih =>
    rw [List.flatten_cons, List.flatten_cons, List.length_append, List.length_append]
    exact Nat.add_le_add h.length_le ih

end Grouping

/-- Rows that a merge in memory can group: they may be held, their group columns are exact and mix
no families, and the partial results of each group can be fed together. -/
structure Groupable (labels : List String) (config : Config) (b : BoundShape)
    (rows : List Row) : Prop where
  length_eq : ∀ r ∈ rows, r.length = labels.length
  exact : ∀ r ∈ rows, (Grouping.ofShape b config.averageScale).Exact r
  fits : ∀ n ≤ rows.length, config.exceedsBufferLimit n = false
  uniform : b.groupBy.Uniform rows
  combines : ∀ f ∈ rows, (Grouping.ofShape b config.averageScale).Combines
    ((Grouping.ofShape b config.averageScale).members rows f)

namespace Groupable

variable {labels : List String} {config : Config} {b : BoundShape} {rows rows' : List Row}
  {rowss outs : List (List Row)}

lemma sublist (h : Groupable labels config b rows') (hsub : rows.Sublist rows') :
    Groupable labels config b rows where
  length_eq r hr := h.length_eq r (hsub.mem hr)
  exact r hr := h.exact r (hsub.mem hr)
  fits n hn := h.fits n (Nat.le_trans hn hsub.length_le)
  uniform t ht := by
    obtain ⟨family, hfamily⟩ := h.uniform t ht
    exact ⟨family, fun r hr => hfamily r (hsub.mem hr)⟩
  combines := Grouping.combines_of_sublist hsub h.combines

lemma output_lt (h : Groupable labels config b rows) (hwithin : b.Within labels.length) :
    ∀ r ∈ rows, ∀ a ∈ (Grouping.ofShape b config.averageScale).aggregates, a.output < r.length := by
  intro r hr a ha
  rw [h.length_eq r hr]
  exact hwithin.output_lt a ha

/-- The finished groups of blocks can be grouped as all rows can. -/
lemma of_blocks (hg : (Grouping.ofShape b config.averageScale).Nestable)
    (hwithin : b.Within labels.length)
    (hblocks : List.Forall₂ (Grouping.ofShape b config.averageScale).Groups rowss outs)
    (h : Groupable labels config b rowss.flatten) : Groupable labels config b outs.flatten where
  length_eq p hp := by
    obtain ⟨f, hf, -, hlen⟩ := Grouping.exists_mem_of_mem_blocks hg hblocks hp
    rw [hlen, h.length_eq f hf]
  exact := Grouping.exact_of_mem_blocks hg hblocks h.exact
  fits n hn := h.fits n (Nat.le_trans hn (Grouping.length_flatten_le hblocks))
  uniform t ht := by
    obtain ⟨family, hfamily⟩ := h.uniform t ht
    refine ⟨family, fun p hp => ?_⟩
    obtain ⟨f, hf, hkey, -⟩ := Grouping.exists_mem_of_mem_blocks hg hblocks hp
    rw [Grouping.cell_eq_of_keyOf_eq hkey (List.mem_map_of_mem ht)]
    exact hfamily f hf
  combines :=
    Grouping.combines_of_blocks hg hblocks h.exact (h.output_lt hwithin) h.combines

end Groupable

namespace Cursor

variable {labels : List String} {b : BoundShape} {config : Config} {shape : Shape}

/-- A merge that collects groups in memory opens over sources whose rows can be grouped, and shows
their finished groups. -/
lemma exists_merge_of_groupable {σ : Type} [RowSource σ] {V : SourceView σ} {sources : List σ}
    {queues : List (List Row)} (hwidth : V.width = labels.length) (hne : sources ≠ [])
    (hlabels : ∀ s ∈ sources, Labelled labels s)
    (hshows : List.Forall₂ (fun s q => V.Shows s none q) sources queues)
    (hbind : BoundShape.bind (.ofLabels labels) shape = .ok b) (hlimit : shape.limit = none)
    (hchoose : Strategy.choose config b = .groupedMemory) (horder : b.effectiveOrder = b.groupBy)
    (hg : (Grouping.ofShape b config.averageScale).Nestable)
    (h : Groupable labels config b queues.flatten) :
    ∃ c merged, Cursor.merge config shape sources = .ok c ∧ Labelled labels c ∧
      (view V).Shows c none (b.groupBy.sort merged) ∧
      (Grouping.ofShape b config.averageScale).Finished queues.flatten merged := by
  have hwithin := BoundShape.within_of_bind_ofLabels hbind
  obtain ⟨merged, hmerged⟩ := hg.exists_finished h.combines (h.output_lt hwithin)
  have hexact : ∀ r ∈ queues.flatten, b.groupBy.Exact r :=
    fun r hr => (Grouping.exact_iff (o := b.groupBy) rfl).mp (h.exact r hr)
  have huniform : b.effectiveOrder.Uniform merged := by
    rw [horder]
    exact (hmerged.uniform_iff rfl hg.notMem_groupColumns hexact).mpr h.uniform
  obtain ⟨c, hmerge, hlabelled, hview⟩ := exists_merge_of_memory hwidth hne hlabels hshows hbind
    hlimit hchoose h.exact h.length_eq h.fits hmerged huniform
  rw [horder] at hview
  exact ⟨c, merged, hmerge, hlabelled, hview, hmerged⟩

/-- A grouped merge in memory that drains without a failure shows that the rows of its sources can
be grouped, if their results are exact: it drains their finished groups. -/
lemma groupable_of_drain {sources : List MemorySource} {flat : Cursor MemorySource}
    {out : List Row} (hne : sources ≠ []) (hfresh : ∀ s ∈ sources, s.Fresh labels)
    (hbind : BoundShape.bind (.ofLabels labels) shape = .ok b) (hlimit : shape.limit = none)
    (hchoose : Strategy.choose config b = .groupedMemory) (horder : b.effectiveOrder = b.groupBy)
    (hnest : (Grouping.ofShape b config.averageScale).Nestable)
    (hkeys : ∀ r ∈ sources.flatMap (·.rows), b.groupBy.Exact r)
    (hinputs : ∀ r ∈ sources.flatMap (·.rows), ∀ a ∈ b.aggregates, ∀ i ∈ a.inputs,
      (Row.cell r i).type? ≠ some .float64)
    (hadds : ∀ f ∈ sources.flatMap (·.rows), ∀ a ∈ b.aggregates, a.AddsUpOver
      ((Grouping.ofShape b config.averageScale).members (sources.flatMap (·.rows)) f))
    (hmerge : Cursor.merge config shape sources = .ok flat) (hdrain : flat.drain.1 = (out, none)) :
    Groupable labels config b (sources.flatMap (·.rows)) ∧
      ∃ merged,
        (Grouping.ofShape b config.averageScale).Finished (sources.flatMap (·.rows)) merged ∧
          out = b.groupBy.sort merged := by
  let g := Grouping.ofShape b config.averageScale
  let V := MemorySource.view labels.length
  have hwithin := BoundShape.within_of_bind_ofLabels hbind
  have hstrategy := (strategy_of_merge hne hfresh hbind hlimit hmerge).trans hchoose
  have hexact : ∀ r ∈ sources.flatMap (·.rows), g.Exact r :=
    fun r hr => (Grouping.exact_iff (o := b.groupBy) rfl).mpr (hkeys r hr)
  have hqueued := queued_numberShards hfresh 0
  have hmemory := memoryMerge_drain_of_drain hne hfresh hbind hlimit hmerge hstrategy hexact hdrain
  obtain ⟨merged, hmerged, huniform, hout⟩ := GroupedMemory.of_drain_eq_ok (V := V)
    (m := memoryMerge config b) hwithin.columnCount_eq hqueued hexact hmemory
  rw [memoryMerge, horder] at huniform hout
  refine ⟨?_, merged, hmerged, hout⟩
  exact {
    length_eq := MemorySource.Fresh.length_of_mem_flatMap hfresh
    exact := hexact
    fits := GroupedMemory.fits_of_drain_eq_ok (V := V) (m := memoryMerge config b)
      hwithin.columnCount_eq hqueued hmemory
    uniform := (hmerged.uniform_iff rfl hnest.notMem_groupColumns hkeys).mp huniform
    combines := hmerged.combines hnest hexact hinputs hadds }

/-- Merges of blocks of sources open if all rows together can be grouped, and each shows the
finished groups of its block. -/
lemma exists_merges_of_groupable {blocks : List (List MemorySource)}
    (hparts : ∀ sources ∈ blocks, sources ≠ []) (hfresh : ∀ s ∈ blocks.flatten, s.Fresh labels)
    (hbind : BoundShape.bind (.ofLabels labels) shape = .ok b) (hlimit : shape.limit = none)
    (hchoose : Strategy.choose config b = .groupedMemory) (horder : b.effectiveOrder = b.groupBy)
    (hnest : (Grouping.ofShape b config.averageScale).Nestable)
    (h : Groupable labels config b (blocks.map (List.flatMap (·.rows))).flatten) :
    ∃ (cs : List (Cursor MemorySource)) (outs : List (List Row)),
      List.Forall₂ (fun sources c => Cursor.merge config shape sources = .ok c) blocks cs ∧
        (∀ c ∈ cs, Labelled labels c) ∧
        List.Forall₂ (fun c q => (view (MemorySource.view labels.length)).Shows c none q) cs outs ∧
        List.Forall₂ (Grouping.ofShape b config.averageScale).Groups
          (blocks.map (List.flatMap (·.rows))) outs := by
  let g := Grouping.ofShape b config.averageScale
  let V := MemorySource.view labels.length
  have hblock (sources : List MemorySource) (hmem : sources ∈ blocks) :
      ∃ p : Cursor MemorySource × List Row, Cursor.merge config shape sources = .ok p.1 ∧
        Labelled labels p.1 ∧ (view V).Shows p.1 none p.2 ∧
        g.Groups (sources.flatMap (·.rows)) p.2 := by
    have hfresh' : ∀ s ∈ sources, s.Fresh labels :=
      fun s hs => hfresh s (List.mem_flatten.mpr ⟨sources, hmem, hs⟩)
    have hshows : List.Forall₂ (fun s q => V.Shows s none q) sources (sources.map (·.rows)) := by
      rw [List.forall₂_map_right_iff, List.forall₂_same]
      exact fun s hs => (hfresh' s hs).shows
    have hsub : (sources.flatMap (·.rows)).Sublist
        (blocks.map (List.flatMap (·.rows))).flatten :=
      List.sublist_flatten_of_mem (List.mem_map_of_mem hmem)
    obtain ⟨c, merged, hc, hlabelled, hview, hfinished⟩ := exists_merge_of_groupable (V := V) rfl
      (hparts sources hmem) (fun s hs => (hfresh' s hs).labelled) hshows hbind hlimit hchoose
      horder hnest (h.sublist hsub)
    exact ⟨(c, _), hc, hlabelled, hview, merged, hfinished, List.mergeSort_perm _ _⟩
  obtain ⟨ps, hps⟩ := exists_forall₂ hblock
  refine ⟨ps.map Prod.fst, ps.map Prod.snd, ?_, ?_, ?_, ?_⟩
  · rw [List.forall₂_map_right_iff]
    exact hps.imp fun _ _ h => h.1
  · rw [List.forall_mem_map]
    exact forall_of_forall₂ hps fun _ _ _ h => h.2.1
  · rw [List.forall₂_map_left_iff, List.forall₂_map_right_iff, List.forall₂_same]
    exact forall_of_forall₂ hps fun _ _ _ h => h.2.2.1
  · rw [List.forall₂_map_left_iff, List.forall₂_map_right_iff]
    exact hps.imp fun _ _ h => h.2.2.2

/-- If a grouped merge in memory of all sources drains without a failure and all its results are
exact, then so does the merge of merged blocks of the sources, and its rows agree with those of the
flat merge one by one. -/
theorem grouped_drain_of_blocks {blocks : List (List MemorySource)} {flat : Cursor MemorySource}
    {out : List Row} (hne : blocks ≠ []) (hparts : ∀ sources ∈ blocks, sources ≠ [])
    (hfresh : ∀ s ∈ blocks.flatten, s.Fresh labels)
    (hbind : BoundShape.bind (.ofLabels labels) shape = .ok b) (hlimit : shape.limit = none)
    (hgrouped : shape.isGrouped = true) (horder : shape.orderBy = [])
    (hstream : config.streamGroupBy = false)
    (hnest : (Grouping.ofShape b config.averageScale).Nestable)
    (hkeys : ∀ r ∈ blocks.flatten.flatMap (·.rows), b.groupBy.Exact r)
    (hinputs : ∀ r ∈ blocks.flatten.flatMap (·.rows), ∀ a ∈ b.aggregates, ∀ i ∈ a.inputs,
      (Row.cell r i).type? ≠ some .float64)
    (hadds : ∀ f ∈ blocks.flatten.flatMap (·.rows), ∀ a ∈ b.aggregates, a.AddsUpOver
      ((Grouping.ofShape b config.averageScale).members (blocks.flatten.flatMap (·.rows)) f))
    (havg : ∀ f ∈ blocks.flatten.flatMap (·.rows), ∀ a ∈ b.aggregates,
      a.Averages config.averageScale
        ((Grouping.ofShape b config.averageScale).members (blocks.flatten.flatMap (·.rows)) f))
    (hmerge : Cursor.merge config shape blocks.flatten = .ok flat)
    (hdrain : flat.drain.1 = (out, none)) :
    ∃ (cs : List (Cursor MemorySource)) (c : Cursor (Cursor MemorySource)) (out' : List Row),
      List.Forall₂ (fun sources c => Cursor.merge config shape sources = .ok c) blocks cs ∧
        Cursor.merge config shape cs = .ok c ∧ c.drain.1 = (out', none) ∧
        List.Forall₂ (Grouping.ofShape b config.averageScale).Matches out out' := by
  have hwithin := BoundShape.within_of_bind_ofLabels hbind
  have horder' : b.effectiveOrder = b.groupBy := by
    have hnil : b.orderBy = [] := (BoundShape.orderBy_eq_nil_iff_of_bind hbind).mpr horder
    simp [BoundShape.effectiveOrder, hnil]
  have hchoose : Strategy.choose config b = .groupedMemory := by
    have hb : b.isGrouped = true := (BoundShape.isGrouped_of_bind hbind).trans hgrouped
    simp [Strategy.choose, hb, hstream]
  have hsources : blocks.flatten ≠ [] := by
    obtain ⟨sources, hsources⟩ := List.exists_mem_of_ne_nil blocks hne
    obtain ⟨s, hs⟩ := List.exists_mem_of_ne_nil sources (hparts sources hsources)
    exact List.ne_nil_of_mem (List.mem_flatten.mpr ⟨sources, hsources, hs⟩)
  have hrows : blocks.flatten.flatMap (·.rows) =
      (blocks.map (List.flatMap (·.rows))).flatten := by
    rw [List.flatMap_def, List.map_flatten, List.flatten_flatten, List.map_map]
    rfl
  -- the flat merge shows that the rows of all sources can be grouped
  obtain ⟨hgroupable, merged, hmerged, hout⟩ := groupable_of_drain hsources hfresh hbind hlimit
    hchoose horder' hnest hkeys hinputs hadds hmerge hdrain
  rw [hrows] at hgroupable havg hmerged
  -- so each block can be merged,
  obtain ⟨cs, outs, hblocks, hlabels, hshows, hgroups⟩ := exists_merges_of_groupable hparts hfresh
    hbind hlimit hchoose horder' hnest hgroupable
  have hcs : cs ≠ [] := by
    rintro rfl
    exact hne (List.forall₂_nil_right_iff.mp hblocks)
  -- and the cursors over the blocks can be merged in turn
  obtain ⟨c, merged', hc, -, hview, hfinished⟩ := exists_merge_of_groupable rfl hcs hlabels hshows
    hbind hlimit hchoose horder' hnest (hgroupable.of_blocks hnest hwithin hgroups)
  refine ⟨cs, c, b.groupBy.sort merged', hblocks, hc, drain_of_shows hview, ?_⟩
  rw [hout]
  exact Grouping.forall₂_matches hnest rfl hgroups hgroupable.exact (hgroupable.output_lt hwithin)
    hgroupable.combines havg hmerged hfinished

/-- Sums, counts, averages and greatest values over two blocks, the first of two sources: the group
they share is averaged over the sums and the counts of the blocks. -/
theorem grouped_drain_of_shared_blocks :
    let labels := ["k", "s", "n", "a", "m"]
    let first : MemorySource := { labels, rows :=
      [[.text "a", .int64 ⟨2, by decide⟩, .int64 ⟨1, by decide⟩, .null, .int64 ⟨7, by decide⟩],
        [.text "b", .null, .int64 ⟨0, by decide⟩, .null, .null]] }
    let second : MemorySource := { labels, rows :=
      [[.text "a", .int32 ⟨3, by decide⟩, .int64 ⟨1, by decide⟩, .null, .int64 ⟨9, by decide⟩]] }
    let third : MemorySource := { labels, rows :=
      [[.text "a", .int64 ⟨1, by decide⟩, .int64 ⟨2, by decide⟩, .null, .int64 ⟨8, by decide⟩]] }
    let shape : Shape :=
      { groupBy := [⟨.index 1, .asc, .first⟩]
        aggregates := [.of .sum (.index 2), .of .count (.index 3),
          .average (.index 4) (.index 2) (.index 3), .of .max (.index 5)] }
    let config : Config := { streamGroupBy := false }
    let g : Grouping := ⟨5, [0], [⟨.sum, 1, [1]⟩, ⟨.count, 2, [2]⟩, ⟨.avg, 3, [1, 2]⟩,
      ⟨.max, 4, [4]⟩], Config.defaultAverageScale⟩
    let out : List Row :=
      [[.text "a", .int64 ⟨6, by decide⟩, .int64 ⟨4, by decide⟩,
          .decimal ⟨⟨15000, by decide⟩, 4⟩, .int64 ⟨9, by decide⟩],
        [.text "b", .null, .int64 ⟨0, by decide⟩, .null, .null]]
    ∃ (cs : List (Cursor MemorySource)) (c : Cursor (Cursor MemorySource)) (out' : List Row),
      List.Forall₂ (fun sources c => Cursor.merge config shape sources = .ok c)
          [[first, second], [third]] cs ∧
        Cursor.merge config shape cs = .ok c ∧ c.drain.1 = (out', none) ∧
        List.Forall₂ g.Matches out out' := by
  intro labels first second third shape config g out
  let b : BoundShape := ⟨5, [⟨0, .asc, .first⟩], [], g.aggregates⟩
  have hbind : BoundShape.bind (.ofLabels labels) shape = .ok b := rfl
  have hnest : g.Nestable :=
    { inputs_eq := by decide
      derived := by
        have havg : ∀ a ∈ g.aggregates, a.function = .avg → a = ⟨.avg, 3, [1, 2]⟩ := by decide
        intro a ha hf
        obtain rfl := havg a ha hf
        exact ⟨1, 2, rfl, by decide, by decide⟩
      notMem_groupColumns := by decide
      nodup_outputs := by decide }
  have hfresh : ∀ s ∈ [first, second, third], s.Fresh labels := by
    rw [List.forall_mem_cons, List.forall_mem_cons, List.forall_mem_singleton]
    exact ⟨⟨rfl, by decide, rfl, rfl⟩, ⟨rfl, by decide, rfl, rfl⟩, ⟨rfl, by decide, rfl, rfl⟩⟩
  obtain ⟨flat, hmerge, hover⟩ := exists_merge config (List.cons_ne_nil _ _) hfresh hbind rfl
  have hsort : b.groupBy.sort out = out := by
    simp only [b, out]
    cbv
  have huniform : b.groupBy.Uniform out :=
    (TypeGuard.acceptAll_keyOf_eq_ok_iff b.groupBy out).mp rfl
  -- the kernel divides; the other results are compared without it
  have hdivide : Accumulator.average (.int64 ⟨6, by decide⟩) (.int64 ⟨4, by decide⟩)
      g.averageScale = .decimal ⟨⟨15000, by decide⟩, 4⟩ := by
    decide +kernel
  have hfinished : g.Finished ([first, second, third].flatMap (·.rows)) out := by
    refine .cons ?_ (.cons rfl .nil)
    rw [← hdivide]
    rfl
  have hout :
      ((memoryMerge config b).drain (numberShards 0 [first, second, third])).1 = .ok out := by
    rw [← hsort]
    exact GroupedMemory.drain_eq_ok (m := memoryMerge config b) (V := MemorySource.view 5) rfl
      (queued_numberShards hfresh 0) (by decide) (by decide) hfinished huniform
  have hdrain : flat.drain.1 = (out, none) :=
    drain_of_emits (GroupedMemory.emits_of_drain_eq_ok rfl hout (by decide)) hover
  exact grouped_drain_of_blocks (List.cons_ne_nil [first, second] [[third]]) (by decide) hfresh
    hbind rfl rfl rfl rfl hnest (by decide) (by decide) (by decide) (by decide) hmerge hdrain

end Cursor

end Confluence
