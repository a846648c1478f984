import Confluence.Proofs.Cursor.Open
import Confluence.Proofs.Merge.Ordered
import Mathlib.Data.List.Permutation

/-!
# Ordered cursors

A cursor over sorted sources drains to the stable sort of all their rows: of rows that tie, those
of an earlier source come first, and those of one source stay in order.
-/

namespace Confluence

variable {labels : List String} {sources : List MemorySource} {b : BoundShape}

/-- Rows that are sorted under an order are sorted by their places. -/
lemma RowOrder.pairwise_comparePlaces {o : RowOrder} {rows : List Row}
    (hexact : ∀ r ∈ rows, o.Exact r)
    (h : rows.Pairwise fun x y => (o.compareRows x y).isLE) :
    rows.Pairwise fun x y => (o.comparePlaces x y).isLE := by
  refine h.imp_of_mem fun {x y} hx hy hxy => ?_
  rwa [← compareRows_eq_comparePlaces (hexact x hx) (hexact y hy)]

/-- The ordered merge over fresh sources runs to its end exactly if no column mixes families, and
then it comes to the rows in the order of a stable sort. -/
lemma OrderedMerge.exists_emits_of_fresh {o : RowOrder} (hfresh : ∀ s ∈ sources, s.Fresh labels)
    (hcols : ∀ t ∈ o, t.column < labels.length)
    (hsorted : ∀ s ∈ sources, s.rows.Pairwise fun x y => (o.compareRows x y).isLE)
    (hexact : ∀ r ∈ sources.flatMap (·.rows), o.Exact r) :
    ∃ rows e, (Merger.ordered (new o)).Emits labels.length (Cursor.numberShards 0 sources) rows e ∧
      (∀ r ∈ rows, r ∈ sources.flatMap (·.rows)) ∧ (e = none ↔ o.Uniform (sources.flatMap (·.rows))) ∧
      (e = none → IsStableSort o.comparePlaces (sources.flatMap (·.rows)) rows) := by
  have hqueued := Cursor.queued_numberShards hfresh 0
  have hqueues : (sources.map (·.rows)).flatten = sources.flatMap (·.rows) := rfl
  have hcols' (c : Nat) (hc : c ∈ o.columns) : c < (MemorySource.view labels.length).width := by
    obtain ⟨t, ht, rfl⟩ := List.mem_map.mp hc
    exact hcols t ht
  have hsorted' (q : List Row) (hq : q ∈ sources.map (·.rows)) :
      q.Pairwise fun x y => (o.comparePlaces x y).isLE := by
    obtain ⟨s, hs, rfl⟩ := List.mem_map.mp hq
    refine o.pairwise_comparePlaces (fun r hr => hexact r ?_) (hsorted s hs)
    exact List.mem_flatMap.mpr ⟨s, hs, hr⟩
  have hstands := stands_new (o := o) hqueued
  rw [hqueues] at hstands
  exact exists_emits hcols' hexact hsorted' hstands

namespace Cursor

/-- A cursor over sources that are sorted by the statement's order drains, without a failure, to
the stable sort of the rows of all sources, one source after the other. -/
theorem ordered_drain_eq_sort {config : Config} {shape : Shape} (hne : sources ≠ [])
    (hfresh : ∀ s ∈ sources, s.Fresh labels)
    (hbind : BoundShape.bind (.ofLabels labels) shape = .ok b)
    (hgrouped : shape.isGrouped = false) (horder : shape.orderBy ≠ []) (hlimit : shape.limit = none)
    (hsorted : ∀ s ∈ sources, s.rows.Pairwise fun x y => (b.orderBy.compareRows x y).isLE)
    (hexact : ∀ r ∈ sources.flatMap (·.rows), b.orderBy.Exact r)
    (huniform : b.orderBy.Uniform (sources.flatMap (·.rows))) :
    ∃ c, Cursor.merge config shape sources = .ok c ∧
      c.drain.1 = (b.orderBy.sort (sources.flatMap (·.rows)), none) ∧
      IsStableSort b.orderBy.compareRows (sources.flatMap (·.rows))
        (b.orderBy.sort (sources.flatMap (·.rows))) := by
  have hwithin := BoundShape.within_of_bind_ofLabels hbind
  have hstrategy : Strategy.choose config b = .ordered := by
    have hb : b.isGrouped = false := (BoundShape.isGrouped_of_bind hbind).trans hgrouped
    have ho : b.orderBy ≠ [] := mt (BoundShape.orderBy_eq_nil_iff_of_bind hbind).mp horder
    simp [Strategy.choose, hb, ho]
  obtain ⟨c, hc, hover⟩ := exists_merge config hne hfresh hbind hlimit
  rw [hstrategy] at hover
  obtain ⟨rows, e, hemits, -, he, hsort⟩ :=
    OrderedMerge.exists_emits_of_fresh hfresh hwithin.orderBy_lt hsorted hexact
  obtain rfl := he.mpr huniform
  obtain rfl := (hsort rfl).unique (RowOrder.isStableSort_sort_comparePlaces hexact)
  exact ⟨c, hc, drain_of_emits hemits hover, RowOrder.isStableSort_sort hexact⟩

/-- Two sources with a tie between them: the row of the first one goes out first. -/
theorem ordered_drain_of_tied_sources :
    let sources : List MemorySource :=
      [{ labels := ["k", "t"], rows := [[.null, .text "a"], [.int64 ⟨1, by decide⟩, .text "b"]] },
        { labels := ["k", "t"],
          rows := [[.int32 ⟨0, by decide⟩, .text "c"], [.int32 ⟨1, by decide⟩, .text "d"]] }]
    ∃ c, Cursor.merge {} { orderBy := [⟨.index 1, .asc, .first⟩] } sources = .ok c ∧
      c.drain.1 = ([[.null, .text "a"], [.int32 ⟨0, by decide⟩, .text "c"],
        [.int64 ⟨1, by decide⟩, .text "b"], [.int32 ⟨1, by decide⟩, .text "d"]], none) := by
  intro sources
  let o : RowOrder := [⟨0, .asc, .first⟩]
  have hbind : BoundShape.bind (.ofLabels ["k", "t"]) { orderBy := [⟨.index 1, .asc, .first⟩] } =
      .ok ⟨2, [], o, []⟩ := rfl
  have hfresh : ∀ s ∈ sources, s.Fresh ["k", "t"] := by
    rw [List.forall_mem_cons, List.forall_mem_singleton]
    exact ⟨⟨rfl, by decide, rfl, rfl⟩, ⟨rfl, by decide, rfl, rfl⟩⟩
  have huniform : o.Uniform (sources.flatMap (·.rows)) := by
    intro t ht
    obtain rfl := List.mem_singleton.mp ht
    exact ⟨.numeric, by decide⟩
  obtain ⟨c, hc, hdrain, -⟩ := ordered_drain_eq_sort (List.cons_ne_nil _ _) hfresh hbind rfl
    (List.cons_ne_nil _ _) rfl (by decide) (by decide) huniform
  refine ⟨c, hc, hdrain.trans ?_⟩
  simp only [o]
  cbv

end Cursor

end Confluence
