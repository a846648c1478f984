import Confluence.Proofs.Group.Merged
import Confluence.Proofs.Shape.Bind

/-!
# Promises to groups

A bound shape feeds every aggregate as many values as it expects, and names only columns that exist
for the results. So groups of rows of the right width break no promise between parts of this library,
and each of them can be finished.
-/

namespace Confluence

/-- Whether a failure is a broken promise between parts of this library. -/
def Failure.isInternalBug : Failure → Bool
  | .internalBug .. => true
  | _ => false

@[simp] lemma Failure.isInternalBug_within (context : String) (e : Failure) :
    (e.within context).isInternalBug = e.isInternalBug := by
  cases e <;> rfl

lemma Failure.isInternalBug_of_kind {e : Failure} (h : e.kind ≠ .bug) : e.isInternalBug = false := by
  cases e with
  | internalBug code message context => exact absurd rfl h
  | _ => rfl

/-! ### Binding -/

/-- A failure to map a function is a failure of one of the elements. -/
lemma exists_of_mapM_eq_error {α β ε : Type} {f : α → Except ε β} {xs : List α} {e : ε}
    (h : xs.mapM f = .error e) : ∃ x ∈ xs, f x = .error e := by
  induction xs with
  | nil => cases h
  | cons x xs ih =>
    rw [List.mapM_cons] at h
    obtain hx | ⟨y, -, h⟩ := of_bind_eq_error h
    · exact ⟨x, List.mem_cons_self, hx⟩
    · obtain hxs | ⟨ys, -, h⟩ := of_bind_eq_error h
      · obtain ⟨x', hx', he⟩ := ih hxs
        exact ⟨x', List.mem_cons_of_mem _ hx', he⟩
      · cases h

lemma LabelIndex.isInternalBug_of_column {x : LabelIndex} {ref : ColumnRef} {e : Failure}
    (h : x.column ref = .error e) : e.isInternalBug = false := by
  rw [column] at h
  split at h
  · cases h
  next e' he' =>
    cases h
    cases ref with
    | index n =>
      rw [resolve] at he'
      split at he'
      · cases he'
      · cases he'
        rfl
    | label s =>
      rw [resolve] at he'
      split at he'
      · cases he'
      · cases he'
        rfl

lemma SortTerm.isInternalBug_of_bind {x : LabelIndex} {t : SortTerm ColumnRef} {e : Failure}
    (h : t.bind x = .error e) : e.isInternalBug = false := by
  rw [bind] at h
  split at h
  · cases h
  next e₁ he₁ =>
    cases h
    exact LabelIndex.isInternalBug_of_column he₁

namespace Aggregate

variable {x : LabelIndex} {a : Aggregate} {e : Failure}

lemma isInternalBug_of_derivedColumn {f : AggregateFunction}
    (h : a.derivedColumn x f = .error e) : e.isInternalBug = false := by
  rw [derivedColumn] at h
  split at h
  · exact LabelIndex.isInternalBug_of_column h
  · cases h
    rfl

lemma isInternalBug_of_bind (h : a.bind x = .error e) : e.isInternalBug = false := by
  rw [bind] at h
  obtain ho | ⟨output, -, h⟩ := of_bind_eq_error h
  · exact LabelIndex.isInternalBug_of_column ho
  by_cases havg : a.function = .avg
  · rw [if_pos havg] at h
    obtain hs | ⟨sum, -, h⟩ := of_bind_eq_error h
    · exact isInternalBug_of_derivedColumn hs
    · obtain hn | ⟨count, -, h⟩ := of_bind_eq_error h
      · exact isInternalBug_of_derivedColumn hn
      · cases h
  · rw [if_neg havg] at h
    obtain hs | ⟨source, -, h⟩ := of_bind_eq_error h
    · exact LabelIndex.isInternalBug_of_column hs
    · cases h

end Aggregate

/-- A shape that does not fit the columns breaks no promise. -/
lemma BoundShape.isInternalBug_of_bind {x : LabelIndex} {s : Shape} {e : Failure}
    (h : bind x s = .error e) : e.isInternalBug = false := by
  rw [bind] at h
  obtain ha | ⟨aggregates, -, h⟩ := of_bind_eq_error h
  · obtain ⟨a, -, ha⟩ := exists_of_mapM_eq_error ha
    exact Aggregate.isInternalBug_of_bind ha
  obtain hg | ⟨groupBy, -, h⟩ := of_bind_eq_error h
  · obtain ⟨t, -, ht⟩ := exists_of_mapM_eq_error hg
    exact SortTerm.isInternalBug_of_bind ht
  obtain ho | ⟨orderBy, -, h⟩ := of_bind_eq_error h
  · obtain ⟨t, -, ht⟩ := exists_of_mapM_eq_error ho
    exact SortTerm.isInternalBug_of_bind ht
  · cases h

/-! ### Accumulators -/

namespace Accumulator

lemma isInternalBug_of_addTo {t : Option Cell} {v : Cell} {e : Failure}
    (h : (addTo t v).1 = .error e) : e.isInternalBug = false := by
  unfold addTo at h
  split at h
  · cases h
  · split at h
    · cases h
      rfl
    · split at h
      · cases h
      · split at h
        · cases h
        · cases h
          rfl

lemma isInternalBug_of_keepExtremum {o : Ordering} {t : Option Cell} {v : Cell} {e : Failure}
    (h : (keepExtremum o t v).1 = .error e) : e.isInternalBug = false := by
  unfold keepExtremum at h
  split at h
  · cases h
  · split at h
    · cases h
    · split at h
      · cases h
      · cases h
        rfl

/-- An accumulator may refuse values of the wrong type, but not the number of them. -/
lemma isInternalBug_of_merge {a : BoundAggregate} {u : Accumulator} {r : Row} {e : Failure}
    (ha : a.Fed) (hu : u.function = a.function)
    (h : (u.merge (a.inputs.map r.cell)).1 = .error e) : e.isInternalBug = false := by
  rw [BoundAggregate.Fed, ← hu] at ha
  cases u with
  | count t =>
    obtain ⟨i, hi⟩ := ha
    rw [hi] at h
    exact isInternalBug_of_addTo h
  | sum t =>
    obtain ⟨i, hi⟩ := ha
    rw [hi] at h
    exact isInternalBug_of_addTo h
  | max t =>
    obtain ⟨i, hi⟩ := ha
    rw [hi] at h
    exact isInternalBug_of_keepExtremum h
  | min t =>
    obtain ⟨i, hi⟩ := ha
    rw [hi] at h
    exact isInternalBug_of_keepExtremum h
  | avg t c places =>
    obtain ⟨i, n, hi⟩ := ha
    rw [hi, List.map_cons, List.map_cons, List.map_nil, merge] at h
    split at h
    next e' t' hadd =>
      cases h
      exact isInternalBug_of_addTo (congrArg Prod.fst hadd)
    · exact isInternalBug_of_addTo h

end Accumulator

/-! ### Groups -/

/-- A grouping as binding a shape leaves it: aggregates are fed the number of values that they
expect, and their results have a column. -/
structure Grouping.WellBound (g : Grouping) : Prop where
  fed : ∀ a ∈ g.aggregates, a.Fed
  output_lt : ∀ a ∈ g.aggregates, a.output < g.columnCount

lemma Grouping.wellBound_of_bind {x : LabelIndex} {shape : Shape} {b : BoundShape}
    (h : BoundShape.bind x shape = .ok b) (places : Decimal.Scale) :
    (Grouping.ofShape b places).WellBound := by
  have hwithin := BoundShape.within_of_bind h
  refine ⟨BoundShape.fed_of_bind h, fun a ha => ?_⟩
  rw [ofShape, hwithin.columnCount_eq]
  exact hwithin.output_lt a ha

namespace Group

/-- A group of rows of the right width, with an accumulator for each aggregate. -/
structure Fits (g : Grouping) (group : Group) : Prop where
  length_eq : group.row.length = g.columnCount
  functions : List.Forall₂ (fun a u => u.function = a.function) g.aggregates group.accumulators

variable {g : Grouping} {group group' : Group} {r : Row} {e : Failure}

lemma fits_openGroup (hr : r.length = g.columnCount) : (g.openGroup r).Fits g := by
  refine ⟨hr, ?_⟩
  rw [Grouping.openGroup, List.forall₂_map_right_iff, List.forall₂_same]
  exact fun a _ => Accumulator.function_new a.function g.averageScale

lemma functions_of_feed {as : List BoundAggregate} {us us' : List Accumulator}
    (h : List.Forall₂ (fun a u => u.function = a.function) as us)
    (hfeed : BoundAggregate.feed r as us = .ok us') :
    List.Forall₂ (fun a u => u.function = a.function) as us' := by
  induction h generalizing us' with
  | nil =>
    cases hfeed
    exact .nil
  | @cons a u as us ha _ ih =>
    have hfunction := (u.function_merge (a.inputs.map r.cell)).trans ha
    rw [BoundAggregate.feed] at hfeed
    split at hfeed
    · cases hfeed
    next u₁ hu₁ =>
      rw [hu₁] at hfunction
      split at hfeed
      · cases hfeed
      next us₁ hus₁ =>
        cases hfeed
        exact .cons hfunction (ih hus₁)

lemma isInternalBug_of_feed_eq {as : List BoundAggregate} {us : List Accumulator}
    (h : List.Forall₂ (fun a u => u.function = a.function) as us) (has : ∀ a ∈ as, a.Fed)
    (hfeed : BoundAggregate.feed r as us = .error e) : e.isInternalBug = false := by
  induction h with
  | nil => cases hfeed
  | @cons a u as us ha _ ih =>
    rw [List.forall_mem_cons] at has
    rw [BoundAggregate.feed] at hfeed
    split at hfeed
    next e₁ u₁ hu₁ =>
      cases hfeed
      exact Accumulator.isInternalBug_of_merge has.1 ha (congrArg Prod.fst hu₁)
    · split at hfeed
      next e₁ he₁ =>
        cases hfeed
        exact ih has.2 he₁
      · cases hfeed

lemma Fits.feed (h : group.Fits g) (hfeed : group.feed g r = .ok group') : group'.Fits g := by
  rw [Group.feed] at hfeed
  split at hfeed
  · cases hfeed
  next us hus =>
    cases hfeed
    exact ⟨h.length_eq, functions_of_feed h.functions hus⟩

lemma Fits.isInternalBug_of_feed (h : group.Fits g) (hg : g.WellBound)
    (hfeed : group.feed g r = .error e) : e.isInternalBug = false := by
  rw [Group.feed] at hfeed
  split at hfeed
  next e₁ he₁ =>
    cases hfeed
    exact isInternalBug_of_feed_eq h.functions hg.fed he₁
  · cases hfeed

lemma fits_of_start (hr : r.length = g.columnCount) (hstart : start g r = .ok group) :
    group.Fits g :=
  (fits_openGroup hr).feed hstart

lemma isInternalBug_of_start (hg : g.WellBound) (hr : r.length = g.columnCount)
    (hstart : start g r = .error e) : e.isInternalBug = false :=
  (fits_openGroup hr).isInternalBug_of_feed hg hstart

/-- A group can be finished, whatever was folded into it. -/
lemma Fits.exists_finish (h : group.Fits g) (hg : g.WellBound) :
    ∃ out, group.finish g = .ok out := by
  apply BoundAggregate.exists_write
  rw [h.length_eq]
  exact hg.output_lt

end Group

/-! ### Tables -/

namespace GroupTable

variable {g : Grouping} {t t' : GroupTable} {r : Row} {e : Failure}

/-- A table whose groups are fed and finished without a broken promise. -/
def Fits (g : Grouping) (t : GroupTable) : Prop := ∀ p ∈ t.groups, p.2.Fits g

lemma fits_empty (g : Grouping) : Fits g {} := List.forall_mem_nil _

lemma fits_of_addTo {skip : Nat} {gs gs' : List (GroupKey × Group)} (h : ∀ p ∈ gs, p.2.Fits g)
    (hr : r.length = g.columnCount) (hadd : addTo g r skip gs = .ok gs') :
    ∀ p ∈ gs', p.2.Fits g := by
  induction gs generalizing skip gs' with
  | nil =>
    rw [addTo] at hadd
    split at hadd
    · cases hadd
    next group hstart =>
      cases hadd
      exact List.forall_mem_singleton.mpr (Group.fits_of_start hr hstart)
  | cons p rest ih =>
    obtain ⟨key, group⟩ := p
    rw [List.forall_mem_cons] at h
    rw [addTo] at hadd
    split at hadd
    · split at hadd
      · cases hadd
      next group' hfeed =>
        cases hadd
        exact List.forall_mem_cons.mpr ⟨h.1.feed hfeed, h.2⟩
    · split at hadd
      · cases hadd
      next rest' hrest =>
        cases hadd
        exact List.forall_mem_cons.mpr ⟨h.1, ih h.2 hrest⟩

lemma isInternalBug_of_addTo {skip : Nat} {gs : List (GroupKey × Group)}
    (h : ∀ p ∈ gs, p.2.Fits g) (hg : g.WellBound) (hr : r.length = g.columnCount)
    (hadd : addTo g r skip gs = .error e) : e.isInternalBug = false := by
  induction gs generalizing skip with
  | nil =>
    rw [addTo] at hadd
    split at hadd
    next e₁ hstart =>
      cases hadd
      exact Group.isInternalBug_of_start hg hr hstart
    · cases hadd
  | cons p rest ih =>
    obtain ⟨key, group⟩ := p
    rw [List.forall_mem_cons] at h
    rw [addTo] at hadd
    split at hadd
    · split at hadd
      next e₁ hfeed =>
        cases hadd
        exact h.1.isInternalBug_of_feed hg hfeed
      · cases hadd
    · split at hadd
      next e₁ hrest =>
        cases hadd
        exact ih h.2 hrest
      · cases hadd

variable {probing : Probing}

lemma Fits.add (h : t.Fits g) (hr : r.length = g.columnCount) (hadd : t.add probing g r = .ok t') :
    t'.Fits g := by
  rw [GroupTable.add] at hadd
  split at hadd
  · cases hadd
  next gs hgs =>
    cases hadd
    exact fits_of_addTo h hr hgs

lemma Fits.isInternalBug_of_add (h : t.Fits g) (hg : g.WellBound) (hr : r.length = g.columnCount)
    (hadd : t.add probing g r = .error e) : e.isInternalBug = false := by
  rw [GroupTable.add] at hadd
  split at hadd
  next e₁ he₁ =>
    cases hadd
    exact isInternalBug_of_addTo h hg hr he₁
  · cases hadd

/-- Every group of a table can be finished. -/
lemma Fits.exists_finish (h : t.Fits g) (hg : g.WellBound) : ∃ rows, t.finish g = .ok rows := by
  suffices hlist : ∀ gs : List (GroupKey × Group), (∀ p ∈ gs, p.2.Fits g) →
      ∃ rows, gs.mapM (fun p => p.2.finish g) = .ok rows from hlist t.groups h
  intro gs hgs
  induction gs with
  | nil => exact ⟨[], rfl⟩
  | cons p gs ih =>
    rw [List.forall_mem_cons] at hgs
    obtain ⟨out, hout⟩ := hgs.1.exists_finish hg
    obtain ⟨outs, houts⟩ := ih hgs.2
    refine ⟨out :: outs, ?_⟩
    rw [List.mapM_cons, hout, houts]
    rfl

end GroupTable

end Confluence
