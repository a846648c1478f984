import Confluence.Nested
import Confluence.Proofs.Cursor.Ungrouped
import Confluence.Proofs.Source.Answers

/-!
# Nested merges of ungrouped rows are flat

A plan that merges blocks of sources, and blocks of such blocks, all in one shape, draws the same
rows as the merge of its leaves from left to right: every merge in it shows the stable sort of the
leaves below it, and a stable sort of stable sorts is the stable sort of all leaves.
-/

namespace Confluence

/-! ### Plans -/

section Plans

variable {ℓ : Type}

/-- The leaves of a plan, from left to right. -/
def Plan.leaves : (n : Nat) → Plan ℓ n → List ℓ
  | 0, l => [l]
  | _ + 1, .inl l => [l]
  | n + 1, .inr m => m.parts.flatMap (Plan.leaves n)

/-- Whether a plan cuts its leaves into blocks of one shape: every merge in it has that shape, and
none is without parts. -/
def Plan.Cut (shape : Shape) : (n : Nat) → Plan ℓ n → Prop
  | 0, _ => True
  | _ + 1, .inl _ => True
  | n + 1, .inr m => m.shape = shape ∧ m.parts ≠ [] ∧ ∀ p ∈ m.parts, Plan.Cut shape n p

variable [RowSource ℓ] {n : Nat} {α : Type}
  {openOne : α → Except (Failure × List ℓ) (Nested ℓ n)}

/-- Plans that can each be opened can be opened from left to right. -/
lemma Plan.exists_openAll {R : α → Nested ℓ n → Prop} {ps : List α}
    (h : ∀ p ∈ ps, ∃ s, openOne p = .ok s ∧ R p s) :
    ∃ ss, openAll openOne ps = .ok ss ∧ List.Forall₂ R ps ss := by
  induction ps with
  | nil => exact ⟨[], rfl, .nil⟩
  | cons p ps ih =>
    rw [List.forall_mem_cons] at h
    obtain ⟨⟨s, hs, hr⟩, h⟩ := h
    obtain ⟨ss, hss, hrs⟩ := ih h
    exact ⟨s :: ss, by simp only [openAll, hs, hss], .cons hr hrs⟩

end Plans

/-! ### Sources of both kinds -/

section Sums

variable {α β : Type} [RowSource α] [RowSource β] {labels : List String}

lemma Labelled.inl {s : α} (h : Labelled labels s) : Labelled labels (Sum.inl s : α ⊕ β) :=
  ⟨h.columnCount_eq, h.exists_columnLabel⟩

lemma Labelled.inr {s : β} (h : Labelled labels s) : Labelled labels (Sum.inr s : α ⊕ β) :=
  ⟨h.columnCount_eq, h.exists_columnLabel⟩

/-- Sources of two kinds whose rows are equally wide have a common view. -/
def SourceView.sum (V : SourceView α) (W : SourceView β)
    (h : W.width = V.width) : SourceView (α ⊕ β) where
  width := V.width
  Shows
    | .inl s => V.Shows s
    | .inr s => W.Shows s
  length_eq {s r rest} hs := by
    cases s with
    | inl s => exact V.length_eq hs
    | inr s => exact (W.length_eq hs).trans h
  advance_nil {s current} hs := by
    cases s with
    | inl s =>
      obtain ⟨s', hadv, hs'⟩ := V.advance_nil hs
      exact ⟨.inl s', RowSource.advance_inl hadv, hs'⟩
    | inr s =>
      obtain ⟨s', hadv, hs'⟩ := W.advance_nil hs
      exact ⟨.inr s', RowSource.advance_inr hadv, hs'⟩
  advance_cons {s current r rest} hs := by
    cases s with
    | inl s =>
      obtain ⟨s', hadv, hs'⟩ := V.advance_cons hs
      exact ⟨.inl s', RowSource.advance_inl hadv, hs'⟩
    | inr s =>
      obtain ⟨s', hadv, hs'⟩ := W.advance_cons hs
      exact ⟨.inr s', RowSource.advance_inr hadv, hs'⟩
  value {s r rest i} hs hi := by
    cases s with
    | inl s =>
      obtain ⟨s', hval, hs'⟩ := V.value hs hi
      exact ⟨.inl s', RowSource.value_inl hval, hs'⟩
    | inr s =>
      obtain ⟨s', hval, hs'⟩ := W.value hs (h ▸ hi)
      exact ⟨.inr s', RowSource.value_inr hval, hs'⟩

end Sums

/-- A view of leaves is a view of nested merges of them. -/
def Nested.view {ℓ : Type} [RowSource ℓ] (V : SourceView ℓ) :
    (n : Nat) → { W : SourceView (Nested ℓ n) // W.width = V.width }
  | 0 => ⟨V, rfl⟩
  | n + 1 => ⟨V.sum (Cursor.view (Nested.view V n).1) (Nested.view V n).2, rfl⟩

/-! ### Opening plans -/

namespace Plan

variable {labels : List String} {shape : Shape} {b : BoundShape} {n : Nat}

/-- The rows of the leaves of a plan, leaf by leaf. -/
def rows (n : Nat) (p : Plan MemorySource n) : List Row := (leaves n p).flatMap (·.rows)

/-- What a plan has to be like to be merged in an order: its leaves are fresh, sorted and without
floats in the sort columns, and no sort column of theirs mixes families. -/
structure Sortable (labels : List String) (o : RowOrder) (leaves : List MemorySource) : Prop where
  fresh : ∀ s ∈ leaves, s.Fresh labels
  sorted : ∀ s ∈ leaves, s.rows.Pairwise fun x y => (o.compareRows x y).isLE
  exact : ∀ r ∈ leaves.flatMap (·.rows), o.Exact r
  uniform : o.Uniform (leaves.flatMap (·.rows))

lemma Sortable.mono {o : RowOrder} {leaves leaves' : List MemorySource}
    (h : Sortable labels o leaves') (hsub : ∀ s ∈ leaves, s ∈ leaves') :
    Sortable labels o leaves := by
  have hrows (r : Row) (hr : r ∈ leaves.flatMap (·.rows)) : r ∈ leaves'.flatMap (·.rows) := by
    obtain ⟨s, hs, hr⟩ := List.mem_flatMap.mp hr
    exact List.mem_flatMap.mpr ⟨s, hsub s hs, hr⟩
  exact ⟨fun s hs => h.fresh s (hsub s hs), fun s hs => h.sorted s (hsub s hs),
    fun r hr => h.exact r (hrows r hr), h.uniform.mono hrows⟩

/-- A source that can be merged is sorted by its places. -/
lemma Sortable.pairwise {o : RowOrder} {leaves : List MemorySource} (h : Sortable labels o leaves)
    {s : MemorySource} (hs : s ∈ leaves) :
    s.rows.Pairwise fun x y => (o.comparePlaces x y).isLE :=
  o.pairwise_comparePlaces (fun r hr => h.exact r (List.mem_flatMap.mpr ⟨s, hs, hr⟩))
    (h.sorted s hs)

/-- A source with the labels of its leaves that shows the stable sort of some rows. -/
def ShowsSort (labels : List String) (o : RowOrder) (rows : List Row) (n : Nat)
    (s : Nested MemorySource n) : Prop :=
  Labelled labels s ∧ ∃ sorted, IsStableSort o.comparePlaces rows sorted ∧
    (Nested.view (MemorySource.view labels.length) n).1.Shows s none sorted

/-- The rows that some sources show are stable sorts of the rows below them. -/
lemma exists_queues {o : RowOrder} {ps : List (Plan MemorySource n)}
    {ss : List (Nested MemorySource n)}
    (h : List.Forall₂ (fun p s => ShowsSort labels o (rows n p) n s) ps ss) :
    (∀ s ∈ ss, Labelled labels s) ∧ ∃ queues,
      List.Forall₂ (IsStableSort o.comparePlaces) (ps.map (rows n)) queues ∧
        List.Forall₂ (fun s q =>
          (Nested.view (MemorySource.view labels.length) n).1.Shows s none q) ss queues := by
  induction h with
  | nil => exact ⟨List.forall_mem_nil _, [], .nil, .nil⟩
  | cons hp _ ih =>
    obtain ⟨hlabelled, q, hsort, hshows⟩ := hp
    obtain ⟨hall, queues, hsorts, hqueues⟩ := ih
    exact ⟨List.forall_mem_cons.mpr ⟨hlabelled, hall⟩, q :: queues, .cons hsort hsorts,
      .cons hshows hqueues⟩

/-- A merge whose parts show stable sorts of their leaves shows the stable sort of all leaves. -/
lemma exists_openMerge (hbind : BoundShape.bind (.ofLabels labels) shape = .ok b)
    (hlimit : shape.limit = none) (hungrouped : b.isGrouped = false)
    {m : MergeOf (Plan MemorySource n)} (hshape : m.shape = shape) (hne : m.parts ≠ [])
    (hexact : ∀ r ∈ m.parts.flatMap (rows n), b.orderBy.Exact r)
    (huniform : b.orderBy.Uniform (m.parts.flatMap (rows n)))
    (hparts : ∀ p ∈ m.parts,
      ∃ s, openSource n p = .ok s ∧ ShowsSort labels b.orderBy (rows n p) n s) :
    ∃ c sorted, openMerge (openSource n) m = .ok c ∧ Labelled labels c ∧
      IsStableSort b.orderBy.comparePlaces (m.parts.flatMap (rows n)) sorted ∧
      (Cursor.view (Nested.view (MemorySource.view labels.length) n).1).Shows c none sorted := by
  obtain ⟨sources, hopen, hsources⟩ := exists_openAll hparts
  obtain ⟨hlabelled, queues, hsorts, hshows⟩ := exists_queues hsources
  have hsort : IsStableSort b.orderBy.comparePlaces queues.flatten _ := .mergeSort _
  have hall := IsStableSort.of_flatten hsorts hsort
  have hmem (r : Row) (hr : r ∈ queues.flatten) : r ∈ m.parts.flatMap (rows n) :=
    hall.perm.mem_iff.mp (hsort.perm.mem_iff.mpr hr)
  have hsorted (q : List Row) (hq : q ∈ queues) :
      q.Pairwise fun x y => (b.orderBy.comparePlaces x y).isLE :=
    forall_of_forall₂ hsorts (fun _ _ _ h => h.sorted) q hq
  have hnonempty : sources ≠ [] := by
    rintro rfl
    exact hne (List.forall₂_nil_right_iff.mp hsources)
  obtain ⟨c, hmerge, hc, hview⟩ := Cursor.exists_merge_of_ungrouped m.config
    (Nested.view (MemorySource.view labels.length) n).2 hnonempty hlabelled hshows hbind hlimit
    hungrouped (fun r hr => hexact r (hmem r hr)) hsorted (huniform.mono hmem) hsort
  refine ⟨c, _, ?_, hc, hall, hview⟩
  simp only [openMerge, hopen, hshape, hmerge]

/-- Every plan in one shape shows the stable sort of its leaves. -/
lemma exists_openSource (hbind : BoundShape.bind (.ofLabels labels) shape = .ok b)
    (hlimit : shape.limit = none) (hungrouped : b.isGrouped = false) {p : Plan MemorySource n}
    (hcut : Cut shape n p) (hleaves : Sortable labels b.orderBy (leaves n p)) :
    ∃ s, openSource n p = .ok s ∧ ShowsSort labels b.orderBy (rows n p) n s := by
  induction n with
  | zero =>
    have hs : p ∈ leaves 0 p := List.mem_singleton_self p
    have hrows : rows 0 p = MemorySource.rows p := List.flatMap_singleton _ _
    refine ⟨p, rfl, (hleaves.fresh p hs).labelled, MemorySource.rows p, ?_,
      (hleaves.fresh p hs).shows⟩
    rw [hrows]
    exact .self (hleaves.pairwise hs)
  | succ n ih =>
    cases p with
    | inl l =>
      have hs : l ∈ leaves (n + 1) (.inl l) := List.mem_singleton_self l
      have hrows : rows (n + 1) (.inl l) = l.rows := List.flatMap_singleton _ _
      refine ⟨.inl l, rfl, (hleaves.fresh l hs).labelled.inl, l.rows, ?_,
        (hleaves.fresh l hs).shows⟩
      rw [hrows]
      exact .self (hleaves.pairwise hs)
    | inr m =>
      obtain ⟨hshape, hne, hcut⟩ := hcut
      rw [leaves] at hleaves
      have hrows : rows (n + 1) (.inr m) = m.parts.flatMap (rows n) := List.flatMap_assoc
      have hparts (p : Plan MemorySource n) (hp : p ∈ m.parts) :
          ∃ s, openSource n p = .ok s ∧ ShowsSort labels b.orderBy (rows n p) n s := by
        have hsub (s : MemorySource) (hs : s ∈ leaves n p) : s ∈ m.parts.flatMap (leaves n) :=
          List.mem_flatMap.mpr ⟨p, hp, hs⟩
        exact ih (hcut p hp) (hleaves.mono hsub)
      have hexact := hleaves.exact
      have huniform := hleaves.uniform
      rw [List.flatMap_assoc] at hexact huniform
      obtain ⟨c, sorted, hopen, hc, hsort, hview⟩ :=
        exists_openMerge hbind hlimit hungrouped hshape hne hexact huniform hparts
      refine ⟨.inr c, by simp only [openSource, hopen], hc.inr, sorted, ?_, hview⟩
      rwa [hrows]

/-- A plan that is cut into blocks has leaves. -/
lemma leaves_ne_nil {p : Plan MemorySource n} (h : Cut shape n p) : leaves n p ≠ [] := by
  induction n with
  | zero => exact List.cons_ne_nil p []
  | succ n ih =>
    cases p with
    | inl l => exact List.cons_ne_nil l []
    | inr m =>
      obtain ⟨-, hne, hcut⟩ := h
      obtain ⟨p, hp⟩ := List.exists_mem_of_ne_nil m.parts hne
      obtain ⟨l, hl⟩ := List.exists_mem_of_ne_nil _ (ih (hcut p hp))
      exact List.ne_nil_of_mem (List.mem_flatMap.mpr ⟨p, hp, hl⟩)

/-- A flat merge draws the stable sort of its sources. -/
lemma Sortable.isStableSort_of_drain {ls : List MemorySource} (hne : ls ≠ [])
    (hls : Sortable labels b.orderBy ls) (hbind : BoundShape.bind (.ofLabels labels) shape = .ok b)
    (hlimit : shape.limit = none) (hungrouped : b.isGrouped = false) {config : Config}
    {flat : Cursor MemorySource} {drained : List Row}
    (hmerge : Cursor.merge config shape ls = .ok flat) (hdrain : flat.drain.1 = (drained, none)) :
    IsStableSort b.orderBy.comparePlaces (ls.flatMap (·.rows)) drained := by
  have hsort : IsStableSort b.orderBy.comparePlaces (ls.flatMap (·.rows)) _ := .mergeSort _
  have hshows : List.Forall₂ (fun s q => (MemorySource.view labels.length).Shows s none q) ls
      (ls.map (·.rows)) := by
    rw [List.forall₂_map_right_iff, List.forall₂_same]
    exact fun s hs => (hls.fresh s hs).shows
  have hsorted (q : List Row) (hq : q ∈ ls.map (·.rows)) :
      q.Pairwise fun x y => (b.orderBy.comparePlaces x y).isLE := by
    obtain ⟨s, hs, rfl⟩ := List.mem_map.mp hq
    exact hls.pairwise hs
  obtain ⟨c, hc, -, hview⟩ := Cursor.exists_merge_of_ungrouped config rfl hne
    (fun s hs => (hls.fresh s hs).labelled) hshows hbind hlimit hungrouped hls.exact hsorted
    hls.uniform hsort
  rw [hmerge, Except.ok.injEq] at hc
  subst hc
  rw [Cursor.drain_of_shows hview, Prod.mk.injEq] at hdrain
  rwa [hdrain.1] at hsort

/-- If the merge of all leaves drains without a failure, then so does every way to cut them into
blocks that are merged in the same shape first, and it draws the same rows. -/
theorem nested_drain_eq_flat_drain {config : Config} {flat : Cursor MemorySource}
    {drained : List Row} {m : MergeOf (Plan MemorySource n)} (hcut : Cut shape (n + 1) (.inr m))
    (hfresh : ∀ s ∈ leaves (n + 1) (.inr m), s.Fresh labels)
    (hbind : BoundShape.bind (.ofLabels labels) shape = .ok b) (hlimit : shape.limit = none)
    (hgrouped : shape.isGrouped = false)
    (hsorted : ∀ s ∈ leaves (n + 1) (.inr m),
      s.rows.Pairwise fun x y => (b.orderBy.compareRows x y).isLE)
    (hexact : ∀ r ∈ rows (n + 1) (.inr m), b.orderBy.Exact r)
    (hmerge : Cursor.merge config shape (leaves (n + 1) (.inr m)) = .ok flat)
    (hdrain : flat.drain.1 = (drained, none)) :
    ∃ c, openMerge (openSource n) m = .ok c ∧ c.drain.1 = (drained, none) := by
  have hne := leaves_ne_nil hcut
  have hungrouped : b.isGrouped = false := (BoundShape.isGrouped_of_bind hbind).trans hgrouped
  have hleaves : Sortable labels b.orderBy (leaves (n + 1) (.inr m)) :=
    { fresh := hfresh
      sorted := hsorted
      exact := hexact
      uniform := Cursor.uniform_of_drain hne hfresh hbind hlimit hungrouped hsorted hexact hmerge
        hdrain }
  have hflat := hleaves.isStableSort_of_drain hne hbind hlimit hungrouped hmerge hdrain
  -- the plan itself opens as a source, over the cursor that is asked for
  obtain ⟨s, hopen, -, sorted, hsort, hshows⟩ :=
    exists_openSource hbind hlimit hungrouped hcut hleaves
  obtain rfl : sorted = drained := hsort.unique hflat
  rw [openSource] at hopen
  cases hc : openMerge (openSource n) m with
  | error e => simp [hc] at hopen
  | ok c =>
    rw [hc] at hopen
    obtain rfl : Sum.inr c = s := Except.ok.inj hopen
    exact ⟨c, rfl, Cursor.drain_of_shows hshows⟩

/-- Three sources with a tie between them, the first alone in a block and that block in another one
with the second: the tie is broken by the order of the leaves. -/
theorem nested_drain_of_tied_blocks :
    let first : MemorySource :=
      { labels := ["k", "t"], rows := [[.null, .text "a"], [.int64 ⟨1, by decide⟩, .text "b"]] }
    let second : MemorySource :=
      { labels := ["k", "t"],
        rows := [[.int32 ⟨0, by decide⟩, .text "c"], [.int32 ⟨1, by decide⟩, .text "d"]] }
    let third : MemorySource :=
      { labels := ["k", "t"], rows := [[.int64 ⟨1, by decide⟩, .text "e"]] }
    let shape : Shape := { orderBy := [⟨.index 1, .asc, .first⟩] }
    let inner : Plan MemorySource 1 := .inr ⟨{}, shape, [first]⟩
    let outer : Plan MemorySource 2 := .inr ⟨{}, shape, [inner, leaf 1 second]⟩
    ∃ c, openMerge (openSource 2) ⟨{}, shape, [outer, leaf 2 third]⟩ = .ok c ∧
      c.drain.1 = ([[.null, .text "a"], [.int32 ⟨0, by decide⟩, .text "c"],
        [.int64 ⟨1, by decide⟩, .text "b"], [.int32 ⟨1, by decide⟩, .text "d"],
        [.int64 ⟨1, by decide⟩, .text "e"]], none) := by
  intro first second third shape inner outer
  have hbind : BoundShape.bind (.ofLabels ["k", "t"]) shape =
      .ok ⟨2, [], [⟨0, .asc, .first⟩], []⟩ := rfl
  have hflat : (Cursor.merge {} shape [first, second, third]).map (fun c => c.drain.1) =
      .ok ([[.null, .text "a"], [.int32 ⟨0, by decide⟩, .text "c"],
        [.int64 ⟨1, by decide⟩, .text "b"], [.int32 ⟨1, by decide⟩, .text "d"],
        [.int64 ⟨1, by decide⟩, .text "e"]], none) := by
    simp only [first, second, third, shape]
    cbv
  cases hmerge : Cursor.merge {} shape [first, second, third] with
  | error e => simp [hmerge, Except.map] at hflat
  | ok flat =>
    rw [hmerge, Except.map, Except.ok.injEq] at hflat
    have hinner : Cut shape 1 inner :=
      ⟨rfl, List.cons_ne_nil _ _, List.forall_mem_singleton.mpr trivial⟩
    have houter : Cut shape 2 outer :=
      ⟨rfl, List.cons_ne_nil _ _, List.forall_mem_cons.mpr ⟨hinner,
        List.forall_mem_singleton.mpr trivial⟩⟩
    have hcut : Cut shape 3 (.inr ⟨{}, shape, [outer, leaf 2 third]⟩) :=
      ⟨rfl, List.cons_ne_nil _ _, List.forall_mem_cons.mpr ⟨houter,
        List.forall_mem_singleton.mpr trivial⟩⟩
    have hfresh : ∀ s ∈ [first, second, third], s.Fresh ["k", "t"] := by
      rw [List.forall_mem_cons, List.forall_mem_cons, List.forall_mem_singleton]
      exact ⟨⟨rfl, by decide, rfl, rfl⟩, ⟨rfl, by decide, rfl, rfl⟩, ⟨rfl, by decide, rfl, rfl⟩⟩
    exact nested_drain_eq_flat_drain hcut hfresh hbind rfl rfl (by decide) (by decide) hmerge hflat

end Plan

end Confluence
