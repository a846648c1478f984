import Confluence.Proofs.Cursor.GroupedMemory
import Confluence.Proofs.Group.Redistribution

/-!
# Grouped results do not depend on the shards

However the rows are spread over shards, a grouped merge in memory comes to the same groups, with
the same values of all aggregates that can be formed exactly.
-/

namespace Confluence

lemma Row.cell_type?_ne {r : Row} (h : ∀ v ∈ r, v.type? ≠ some .float64) (i : Nat) :
    (r.cell i).type? ≠ some .float64 := by
  rw [Row.cell, List.getD_eq_getElem?_getD]
  cases hi : r[i]? with
  | none => simp [Cell.type?]
  | some v => exact h v (List.mem_of_getElem? hi)

namespace Cursor

variable {labels : List String} {sources sources' : List MemorySource} {b : BoundShape}
  {config : Config} {shape : Shape}

/-- Two grouped merges in memory of the same rows without floats, spread over shards in any way and
any order, come to the same groups. Each group is there once, and in groups with the same key every
aggregate that stays exact, writes into no group column and shares its output with no other one has
the same value. -/
theorem redistributed_drains_agree {c c' : Cursor MemorySource} {out out' : List Row}
    (hne : sources ≠ []) (hne' : sources' ≠ []) (hfresh : ∀ s ∈ sources, s.Fresh labels)
    (hfresh' : ∀ s ∈ sources', s.Fresh labels)
    (hperm : (sources.flatMap (·.rows)).Perm (sources'.flatMap (·.rows)))
    (hbind : BoundShape.bind (.ofLabels labels) shape = .ok b) (hlimit : shape.limit = none)
    (hmerge : Cursor.merge config shape sources = .ok c)
    (hmerge' : Cursor.merge config shape sources' = .ok c')
    (hstrategy : c.strategy = .groupedMemory)
    (hexact : ∀ r ∈ sources.flatMap (·.rows), ∀ v ∈ r, v.type? ≠ some .float64)
    (hkeys : ∀ a ∈ b.aggregates, a.output ∉ b.groupBy.columns)
    (hstays : ∀ f ∈ sources.flatMap (·.rows), ∀ a ∈ b.aggregates, a.StaysExact config.averageScale
      ((Grouping.ofShape b config.averageScale).members (sources.flatMap (·.rows)) f))
    (hdrain : c.drain.1 = (out, none)) (hdrain' : c'.drain.1 = (out', none)) :
    let g := Grouping.ofShape b config.averageScale
    (out.Pairwise fun r r' => g.same r r' = false) ∧
      (out'.Pairwise fun r r' => g.same r r' = false) ∧
      (∀ r ∈ out, ∃ r' ∈ out', g.same r r' = true) ∧
      (∀ r' ∈ out', ∃ r ∈ out, g.same r r' = true) ∧
      ∀ r ∈ out, ∀ r' ∈ out', g.same r r' = true → ∀ a : BoundAggregate,
        b.aggregates.filter (fun a' => a'.output = a.output) = [a] →
          (r.cell a.output).Agrees (r'.cell a.output) := by
  intro g
  let rows := sources.flatMap (·.rows)
  let rows' := sources'.flatMap (·.rows)
  have hcell : ∀ r ∈ rows, ∀ i, (Row.cell r i).type? ≠ some .float64 :=
    fun r hr => Row.cell_type?_ne (hexact r hr)
  have hg : ∀ r ∈ rows, g.Exact r := fun r hr i _ => hcell r hr i
  have hg' : ∀ r ∈ rows', g.Exact r := fun r hr => hg r (hperm.mem_iff.mpr hr)
  have hstrategy' : c'.strategy = .groupedMemory := by
    rw [strategy_of_merge hne' hfresh' hbind hlimit hmerge',
      ← strategy_of_merge hne hfresh hbind hlimit hmerge, hstrategy]
  obtain ⟨merged, hmerged, rfl⟩ :=
    finished_of_drain hne hfresh hbind hlimit hmerge hstrategy hg hdrain
  obtain ⟨merged', hmerged', rfl⟩ :=
    finished_of_drain hne' hfresh' hbind hlimit hmerge' hstrategy' hg' hdrain'
  have hsort (merged : List Row) : (b.effectiveOrder.sort merged).Perm merged :=
    List.mergeSort_perm _ _
  have hpairs {merged : List Row}
      (h : merged.Pairwise fun r r' => g.same r r' = false ∧ g.same r' r = false) :
      (b.effectiveOrder.sort merged).Pairwise fun r r' => g.same r r' = false :=
    ((hsort merged).symm.pairwise h And.symm).imp And.left
  have hwithin := BoundShape.within_of_bind_ofLabels hbind
  refine ⟨hpairs (hmerged.pairwise hg hkeys), hpairs (hmerged'.pairwise hg' hkeys), ?_, ?_, ?_⟩
  · intro r hr
    obtain ⟨r', hr', hsame, -⟩ :=
      hmerged.exists_same hmerged' hperm hg hkeys ((hsort merged).mem_iff.mp hr)
    exact ⟨r', (hsort merged').mem_iff.mpr hr', hsame⟩
  · intro r' hr'
    obtain ⟨r, hr, -, hsame⟩ :=
      hmerged'.exists_same hmerged hperm.symm hg' hkeys ((hsort merged').mem_iff.mp hr')
    exact ⟨r, (hsort merged).mem_iff.mpr hr, hsame⟩
  · intro r hr r' hr' hsame a ha
    have hmem : a ∈ b.aggregates := by
      have hsingle : a ∈ b.aggregates.filter fun a' => a'.output = a.output := by
        rw [ha]
        exact List.mem_singleton_self a
      exact List.mem_of_mem_filter hsingle
    have hlt : ∀ r ∈ rows, a.output < r.length := by
      intro r hr
      rw [MemorySource.Fresh.length_of_mem_flatMap hfresh r hr]
      exact hwithin.output_lt a hmem
    exact hmerged.agrees hmerged' hperm hcell hkeys ha (BoundShape.fed_of_bind hbind a hmem) hlt
      (fun f hf => hstays f hf a hmem) ((hsort merged).mem_iff.mp hr)
      ((hsort merged').mem_iff.mp hr') hsame

/-- The sums of the rows of two sources, and of the same rows in one source. -/
theorem redistributed_drains_agree_of_shared_group :
    let shape : Shape :=
      { groupBy := [⟨.index 1, .asc, .first⟩], orderBy := [⟨.index 2, .desc, .last⟩],
        aggregates := [.of .sum (.index 2)] }
    let sources : List MemorySource := [{ labels := ["k", "n"], rows :=
      [[.text "a", .int64 ⟨2, by decide⟩], [.text "b", .null], [.text "a", .int64 ⟨1, by decide⟩]] }]
    let g : Grouping := ⟨2, [0], [⟨.sum, 1, [1]⟩], Config.defaultAverageScale⟩
    ∃ c c' out out', Cursor.merge {} shape sharedGroupSources = .ok c ∧
      Cursor.merge {} shape sources = .ok c' ∧ c.drain.1 = (out, none) ∧
      c'.drain.1 = (out', none) ∧ ∀ r ∈ out, ∀ r' ∈ out', g.same r r' = true →
        (r.cell 1).Agrees (r'.cell 1) := by
  intro shape sources g
  let b : BoundShape := ⟨2, [⟨0, .asc, .first⟩], [⟨1, .desc, .last⟩], [⟨.sum, 1, [1]⟩]⟩
  let m : GroupedMemory := { config := {}, grouping := g, order := [⟨1, .desc, .last⟩] }
  let out : List Row := [[.text "a", .int64 ⟨3, by decide⟩], [.text "b", .null]]
  have hbind : BoundShape.bind (.ofLabels ["k", "n"]) shape = .ok b := rfl
  have hfresh := fresh_of_mem_sharedGroupSources
  have hfresh' : ∀ s ∈ sources, s.Fresh ["k", "n"] := by
    rw [List.forall_mem_singleton]
    exact ⟨rfl, by decide, rfl, rfl⟩
  obtain ⟨c, hmerge, hover⟩ := exists_merge {} (List.cons_ne_nil _ _) hfresh hbind rfl
  obtain ⟨c', hmerge', hover'⟩ := exists_merge {} (List.cons_ne_nil _ _) hfresh' hbind rfl
  have hstrategy : c.strategy = .groupedMemory := by
    rw [strategy, hover.merger_eq]
    rfl
  have hsort : m.order.sort out = out := by
    simp only [m, out]
    cbv
  have huniform : m.order.Uniform out := (TypeGuard.acceptAll_keyOf_eq_ok_iff m.order out).mp rfl
  have hout : (m.drain (numberShards 0 sharedGroupSources)).1 = .ok out := by
    rw [← hsort]
    exact GroupedMemory.drain_eq_ok (m := m) (V := MemorySource.view 2) rfl
      (queued_numberShards hfresh 0) (by decide) (by decide) (.cons rfl (.cons rfl .nil))
      huniform
  have hout' : (m.drain (numberShards 0 sources)).1 = .ok out := by
    rw [← hsort]
    exact GroupedMemory.drain_eq_ok (m := m) (V := MemorySource.view 2) rfl
      (queued_numberShards hfresh' 0) (by decide) (by decide) (.cons rfl (.cons rfl .nil))
      huniform
  have hdrain : c.drain.1 = (out, none) :=
    drain_of_emits (GroupedMemory.emits_of_drain_eq_ok rfl hout (by decide)) hover
  have hdrain' : c'.drain.1 = (out, none) :=
    drain_of_emits (GroupedMemory.emits_of_drain_eq_ok rfl hout' (by decide)) hover'
  obtain ⟨-, -, -, -, hagree⟩ := redistributed_drains_agree (List.cons_ne_nil _ _)
    (List.cons_ne_nil _ _) hfresh hfresh' (by decide) hbind rfl hmerge hmerge' hstrategy (by decide)
    (by decide) (by decide) hdrain hdrain'
  exact ⟨c, c', out, out, hmerge, hmerge', hdrain, hdrain', fun r hr r' hr' hsame =>
    hagree r hr r' hr' hsame ⟨.sum, 1, [1]⟩ rfl⟩

end Cursor

end Confluence
