import Confluence.Proofs.Cursor.Ordered
import Confluence.Proofs.Merge.Concat

/-!
# Ungrouped cursors

A merge of rows that are not grouped draws the stable sort of all rows under the statement's order.
Without an order every row ties with every other one, and the stable sort leaves them as they are.
-/

namespace Confluence

lemma RowOrder.Uniform.mono {o : RowOrder} {rows rows' : List Row} (h : o.Uniform rows')
    (hsub : ∀ r ∈ rows, r ∈ rows') : o.Uniform rows := by
  intro t ht
  obtain ⟨f, hf⟩ := h t ht
  exact ⟨f, fun r hr => hf r (hsub r hr)⟩

namespace Cursor

variable {σ : Type} [RowSource σ] {V : SourceView σ} {labels : List String} {sources : List σ}
  {queues : List (List Row)} {rows : List Row} {config : Config} {shape : Shape} {b : BoundShape}

/-- The merger of ungrouped rows delivers the stable sort of all rows. -/
lemma delivers_of_ungrouped (hungrouped : b.isGrouped = false)
    (hcols : ∀ t ∈ b.orderBy, t.column < V.width)
    (hexact : ∀ r ∈ queues.flatten, b.orderBy.Exact r)
    (hsorted : ∀ q ∈ queues, q.Pairwise fun x y => (b.orderBy.comparePlaces x y).isLE)
    (huniform : b.orderBy.Uniform queues.flatten)
    (hsort : IsStableSort b.orderBy.comparePlaces queues.flatten rows) {ss : List (Shard σ)}
    (hss : Queued V.Behind 0 ss queues) :
    (Merger.start config b (Strategy.choose config b)).Delivers V none rows ss := by
  by_cases horder : b.orderBy = []
  · have hchoose : Strategy.choose config b = .concat := by
      simp [Strategy.choose, hungrouped, horder]
    have hself : IsStableSort b.orderBy.comparePlaces queues.flatten queues.flatten := by
      rw [horder]
      exact .self (List.pairwise_of_forall fun _ _ => rfl)
    have hnone : ([] : List (Shard σ)).length = ({} : ConcatMerge).position := rfl
    rw [hchoose]
    exact ConcatMerge.delivers hnone hss (hself.unique hsort)
  · have hchoose : Strategy.choose config b = .ordered := by
      simp [Strategy.choose, hungrouped, horder]
    have hcols' (c : Nat) (hc : c ∈ b.orderBy.columns) : c < V.width := by
      obtain ⟨t, ht, rfl⟩ := List.mem_map.mp hc
      exact hcols t ht
    rw [hchoose]
    exact OrderedMerge.delivers hcols' hexact hsorted huniform hsort (OrderedMerge.stands_new hss)

/-- A merge of ungrouped rows opens and shows the stable sort of all rows. -/
lemma exists_merge_of_ungrouped (config : Config) (hwidth : V.width = labels.length)
    (hne : sources ≠ []) (hlabels : ∀ s ∈ sources, Labelled labels s)
    (hshows : List.Forall₂ (fun s q => V.Shows s none q) sources queues)
    (hbind : BoundShape.bind (.ofLabels labels) shape = .ok b) (hlimit : shape.limit = none)
    (hungrouped : b.isGrouped = false) (hexact : ∀ r ∈ queues.flatten, b.orderBy.Exact r)
    (hsorted : ∀ q ∈ queues, q.Pairwise fun x y => (b.orderBy.comparePlaces x y).isLE)
    (huniform : b.orderBy.Uniform queues.flatten)
    (hsort : IsStableSort b.orderBy.comparePlaces queues.flatten rows) :
    ∃ c, Cursor.merge config shape sources = .ok c ∧ Labelled labels c ∧
      (view V).Shows c none rows := by
  obtain ⟨c, hmerge, hlabelled, hphase, hover⟩ :=
    exists_merge_of_labelled config hne hlabels hbind hlimit
  have hcols := (BoundShape.within_of_bind_ofLabels hbind).orderBy_lt
  rw [← hwidth] at hcols hover
  have hdelivers : (Merger.start config b (Strategy.choose config b)).Delivers V none rows
      (numberShards 0 sources) :=
    delivers_of_ungrouped hungrouped hcols hexact hsorted huniform hsort (queued_of_shows hshows 0)
  exact ⟨c, hmerge, hlabelled, view_shows_of_over hover hphase hdelivers⟩

/-- Over fresh sources that are sorted, a merge without a failure shows that no sort column mixes
families. -/
lemma uniform_of_drain {sources : List MemorySource} {c : Cursor MemorySource} (hne : sources ≠ [])
    (hfresh : ∀ s ∈ sources, s.Fresh labels)
    (hbind : BoundShape.bind (.ofLabels labels) shape = .ok b) (hlimit : shape.limit = none)
    (hungrouped : b.isGrouped = false)
    (hsorted : ∀ s ∈ sources, s.rows.Pairwise fun x y => (b.orderBy.compareRows x y).isLE)
    (hexact : ∀ r ∈ sources.flatMap (·.rows), b.orderBy.Exact r)
    (hmerge : Cursor.merge config shape sources = .ok c) (hdrain : c.drain.1 = (rows, none)) :
    b.orderBy.Uniform (sources.flatMap (·.rows)) := by
  by_cases horder : b.orderBy = []
  · rw [horder]
    exact List.forall_mem_nil _
  · have hchoose : Strategy.choose config b = .ordered := by
      simp [Strategy.choose, hungrouped, horder]
    obtain ⟨c', hmerge', hover⟩ := exists_merge config hne hfresh hbind hlimit
    rw [hmerge, Except.ok.injEq] at hmerge'
    subst hmerge'
    rw [hchoose] at hover
    have hcols := (BoundShape.within_of_bind_ofLabels hbind).orderBy_lt
    obtain ⟨rows', e, hemits, -, he, -⟩ :=
      OrderedMerge.exists_emits_of_fresh hfresh hcols hsorted hexact
    rw [drain_of_emits hemits hover, Prod.mk.injEq] at hdrain
    exact he.mp hdrain.2

end Cursor

end Confluence
