import Confluence.Proofs.Group.Partials
import Confluence.Proofs.Group.Sorted

/-!
# Groups of finished groups

If rows are cut into blocks and each block is grouped, then a grouping of the finished rows has the
groups of all rows. It feeds its aggregates partial results of the same aggregates, so it comes to
the rows that grouping all rows comes to, up to the representation of counts and sums.
-/

namespace Confluence

open Cell Accumulator

/-! ### Aggregates -/

namespace BoundAggregate

variable {a : BoundAggregate} {rows : List Row} {places : Decimal.Scale} {i n : Nat}

/-- Feeding rows folds in the cells of the columns that an aggregate is fed from. -/
lemma feedAll_eq_mergeAll (a : BoundAggregate) (places : Decimal.Scale) (rows : List Row) :
    a.feedAll places rows =
      mergeAll (.new a.function places) (rows.map fun r => a.inputs.map r.cell) := by
  have hstep : a.step = fun u r => u.merged (a.inputs.map r.cell) := by
    funext u r
    rcases h : u.merge (a.inputs.map r.cell) with ⟨_ | _, u'⟩ <;> simp only [step, merged, h]
  rw [feedAll, mergeAll, List.foldlM_map, hstep]

/-- Feeding an aggregate of one value folds in the cells of its column. -/
lemma feedAll_eq_of_inputs (hin : a.inputs = [i]) (places : Decimal.Scale) (rows : List Row) :
    a.feedAll places rows =
      mergeAll (.new a.function places) ((cellsOf rows i).map fun v => [v]) := by
  rw [feedAll_eq_mergeAll, hin, cellsOf, List.map_map]
  rfl

/-- An aggregate of one value comes to a result if its cells can be fed together. -/
lemma exists_summary (places : Decimal.Scale) (hin : a.inputs = [i])
    (hc : Combinable (cellsOf rows i) a.function) :
    ∃ u, a.feedAll places rows = .ok u ∧ Summarizes (cellsOf rows i) a.function u.result := by
  obtain ⟨u, hmerge, hfunction, hu⟩ := hc.exists_mergeAll places
  refine ⟨u, by rw [feedAll_eq_of_inputs hin, hmerge], ?_⟩
  rw [← hfunction]
  exact hu.summarizes

/-- An average comes to the quotient of a sum and a count if its cells can be added up. -/
lemma exists_summaries (places : Decimal.Scale) (ha : a.function = .avg) (hin : a.inputs = [i, n])
    (hi : AddUp (cellsOf rows i)) (hn : AddUp (cellsOf rows n)) :
    ∃ u x y, a.feedAll places rows = .ok u ∧ Summarizes (cellsOf rows i) .sum x ∧
      Summarizes (cellsOf rows n) .count y ∧ u.result = average x y places := by
  have hfst : (rows.map fun r => (r.cell i, r.cell n)).map Prod.fst = cellsOf rows i := by
    rw [cellsOf, List.map_map]
    rfl
  have hsnd : (rows.map fun r => (r.cell i, r.cell n)).map Prod.snd = cellsOf rows n := by
    rw [cellsOf, List.map_map]
    rfl
  have hrun := @exists_mergeAll (rows.map fun r => (r.cell i, r.cell n)) places
  rw [hfst, hsnd] at hrun
  obtain ⟨t, c, hmerge, ht, hc⟩ := hrun hi.isAddend hn.isAddend hi.addsUp hn.addsUp
  obtain ⟨d, hd, hsum⟩ := hc.isSum_getD_zeroCount
  refine ⟨.avg t c places, t.getD .null, c.getD zeroCount, ?_, .sum ht, .count hd hsum, rfl⟩
  rw [feedAll_eq_mergeAll, ha, hin, ← hmerge, List.map_map]
  rfl

end BoundAggregate

/-! ### Groupings of partial results -/

namespace Grouping

variable {g : Grouping} {rows rows' ms ps : List Row} {mss : List (List Row)} {f p r r' out : Row}
  {a : BoundAggregate}

/-- A grouping whose results can be grouped again: every aggregate writes its result where partial
results are read from, no average is read, and each output belongs to one aggregate. -/
structure Nestable (g : Grouping) : Prop where
  inputs_eq : ∀ a ∈ g.aggregates, a.function ≠ .avg → a.inputs = [a.output]
  derived : ∀ a ∈ g.aggregates, a.function = .avg → ∃ i n, a.inputs = [i, n] ∧
    ⟨.sum, i, [i]⟩ ∈ g.aggregates ∧ ⟨.count, n, [n]⟩ ∈ g.aggregates
  notMem_groupColumns : ∀ a ∈ g.aggregates, a.output ∉ g.groupColumns
  nodup_outputs : (g.aggregates.map (·.output)).Nodup

/-- Whether the partial results in some rows can be fed together. -/
def Combines (g : Grouping) (rows : List Row) : Prop :=
  ∀ a ∈ g.aggregates, a.function ≠ .avg → Combinable (cellsOf rows a.output) a.function

lemma Combines.sublist (h : g.Combines rows') (hsub : rows.Sublist rows') : g.Combines rows :=
  fun a ha hf => (h a ha hf).sublist (hsub.map _)

/-- The sums and the counts that an average reads can be added up. -/
lemma Combines.addUp (h : g.Combines rows) {i n : Nat} (hi : ⟨.sum, i, [i]⟩ ∈ g.aggregates)
    (hn : ⟨.count, n, [n]⟩ ∈ g.aggregates) :
    AddUp (cellsOf rows i) ∧ AddUp (cellsOf rows n) := by
  constructor
  · cases h _ hi (by simp) with
    | sum h => exact h
  · cases h _ hn (by simp) with
    | count h => exact h

namespace Nestable

/-- Each aggregate is fed rows that can be fed together. -/
lemma exists_feedAll (hg : g.Nestable) (h : g.Combines rows) (ha : a ∈ g.aggregates) :
    ∃ u, a.feedAll g.averageScale rows = .ok u := by
  by_cases hf : a.function = .avg
  · obtain ⟨i, n, hin, hi, hn⟩ := hg.derived a ha hf
    obtain ⟨hsums, hcounts⟩ := h.addUp hi hn
    obtain ⟨u, -, -, hu, -⟩ := BoundAggregate.exists_summaries g.averageScale hf hin hsums hcounts
    exact ⟨u, hu⟩
  · obtain ⟨u, hu, -⟩ :=
      BoundAggregate.exists_summary g.averageScale (hg.inputs_eq a ha hf) (h a ha hf)
    exact ⟨u, hu⟩

/-- A group was finished from rows that can be fed together. -/
lemma combines_of_mergedRow (hg : g.Nestable) (h : g.mergedRow f rows = .ok out)
    (hexact : ∀ r ∈ rows, ∀ a ∈ g.aggregates, ∀ i ∈ a.inputs, (Row.cell r i).type? ≠ some .float64)
    (hadds : ∀ a ∈ g.aggregates, a.AddsUpOver rows) : g.Combines rows := by
  intro a ha hf
  have hin := hg.inputs_eq a ha hf
  have hi : a.output ∈ a.inputs := by
    rw [hin]
    exact List.mem_singleton_self _
  obtain ⟨u, hu⟩ := exists_feedAll_of_mergedRow h ha
  rw [BoundAggregate.feedAll_eq_of_inputs hin] at hu
  refine combinable_of_mergeAll hf ?_ ?_ hu
  · rw [cellsOf, List.forall_mem_map]
    exact fun r hr => hexact r hr a ha _ hi
  · rintro (hsum | hcount)
    · exact hadds a ha (Or.inl hsum) _ hi
    · exact hadds a ha (Or.inr (Or.inl hcount)) _ hi

/-- The output of each aggregate is its result. -/
lemma exists_result (hg : g.Nestable) (h : g.mergedRow f rows = .ok out) (ha : a ∈ g.aggregates)
    (hlt : a.output < f.length) :
    ∃ u, a.feedAll g.averageScale rows = .ok u ∧ out.cell a.output = u.result := by
  refine exists_result_of_mergedRow h ?_ hlt
  have hwriter : g.aggregates.filter (fun a' => a'.output = a.output) =
      g.aggregates.filter (· = a) := by
    refine List.filter_congr fun a' ha' => decide_eq_decide.mpr ⟨fun hout => ?_, fun heq => ?_⟩
    · exact List.inj_on_of_nodup_map hg.nodup_outputs ha' ha hout
    · rw [heq]
  rw [hwriter, List.filter_eq, List.count_eq_one_of_mem hg.nodup_outputs.of_map ha]
  rfl

/-- The output of an aggregate of one value summarizes its cells. -/
lemma summarizes_of_mergedRow (hg : g.Nestable) (hc : g.Combines rows)
    (h : g.mergedRow f rows = .ok out) (ha : a ∈ g.aggregates) (hf : a.function ≠ .avg)
    (hlt : a.output < f.length) :
    Summarizes (cellsOf rows a.output) a.function (out.cell a.output) := by
  obtain ⟨u, hu, hcell⟩ := hg.exists_result h ha hlt
  obtain ⟨u', hu', hsummary⟩ :=
    BoundAggregate.exists_summary g.averageScale (hg.inputs_eq a ha hf) (hc a ha hf)
  obtain rfl : u = u' := Except.ok.inj (hu.symm.trans hu')
  rwa [hcell]

/-- The output of an average is the quotient of a sum and a count. -/
lemma exists_average_of_mergedRow (hg : g.Nestable) (hc : g.Combines rows)
    (h : g.mergedRow f rows = .ok out) (ha : a ∈ g.aggregates) (hf : a.function = .avg)
    (hlt : a.output < f.length) {i n : Nat} (hin : a.inputs = [i, n])
    (hi : ⟨.sum, i, [i]⟩ ∈ g.aggregates) (hn : ⟨.count, n, [n]⟩ ∈ g.aggregates) :
    ∃ x y, Summarizes (cellsOf rows i) .sum x ∧ Summarizes (cellsOf rows n) .count y ∧
      out.cell a.output = average x y g.averageScale := by
  obtain ⟨u, hu, hcell⟩ := hg.exists_result h ha hlt
  obtain ⟨hsums, hcounts⟩ := hc.addUp hi hn
  obtain ⟨u', x, y, hu', hx, hy, hresult⟩ :=
    BoundAggregate.exists_summaries g.averageScale hf hin hsums hcounts
  obtain rfl : u = u' := Except.ok.inj (hu.symm.trans hu')
  exact ⟨x, y, hx, hy, hcell.trans hresult⟩

end Nestable

/-! ### Parts of a group -/

/-- The finished row of part of a group: the first of its rows, with the results of the aggregates
that were fed these rows. -/
def IsPartial (g : Grouping) (ms : List Row) (p : Row) : Prop :=
  ∃ f, ms.head? = some f ∧ g.mergedRow f ms = .ok p

/-- The finished groups of some rows, in any order. -/
def Groups (g : Grouping) (rows out : List Row) : Prop :=
  ∃ merged, g.Finished rows merged ∧ out.Perm merged

/-- The first row in the group of a row is the first of its members. -/
lemma filter_firstRows (hexact : ∀ r ∈ rows, g.Exact r) (hf : g.Exact f) :
    (g.firstRows rows).filter (g.same f) = (g.members rows f).head?.toList := by
  induction rows using groupInduction g with
  | nil => rfl
  | cons a rows ih =>
    have hall := List.forall_mem_cons.mp hexact
    have hrest := ih fun r hr => hall.2 r (List.mem_of_mem_filter hr)
    rw [firstRows_cons]
    cases hfa : g.same f a with
    | true =>
      have hnone : g.members (rows.filter fun r => g.same r a = false) f = [] := by
        refine List.filter_eq_nil_iff.mpr fun r hr hfr => ?_
        obtain ⟨hr, hra⟩ := List.mem_filter.mp hr
        rw [same_congr_left hf (hall.2 r hr) hall.1 hfr] at hfa
        simp [hfa] at hra
      rw [hnone] at hrest
      rw [List.filter_cons_of_pos hfa, hrest, members, List.filter_cons_of_pos hfa]
      rfl
    | false =>
      rw [members_cons_of_not_same hexact hf hfa, List.filter_cons_of_neg (by simp [hfa]), hrest]

/-- A finished row has the key of its first row. -/
lemma keyOf_of_mergedRow (hg : g.Nestable) (h : g.mergedRow f ms = .ok out) :
    g.keyOf out = g.keyOf f :=
  keyOf_mergedRow h hg.notMem_groupColumns

/-- The members of a group of finished rows: one for the rows of that group, if there are any. -/
lemma Groups.exists_parts (hg : g.Nestable) (hexact : ∀ r ∈ rows, g.Exact r) (hf : g.Exact f)
    (h : g.Groups rows ps) : ∃ mss, mss.flatten = g.members rows f ∧
      List.Forall₂ g.IsPartial mss (g.members ps f) := by
  obtain ⟨merged, hmerged, hperm⟩ := h
  have hfilter : List.Forall₂ (fun f' out => g.mergedRow f' (g.members rows f') = .ok out)
      (g.members rows f).head?.toList (g.members merged f) := by
    rw [← filter_firstRows hexact hf]
    refine forall₂_filter hmerged fun f' out hout => ?_
    rw [same, same, keyOf_of_mergedRow hg hout]
  have hmembers : (g.members ps f).Perm (g.members merged f) := hperm.filter _
  cases hms : g.members rows f with
  | nil =>
    rw [hms, List.head?_nil, Option.toList_none, List.forall₂_nil_left_iff] at hfilter
    rw [hfilter] at hmembers
    rw [hmembers.eq_nil]
    exact ⟨[], rfl, .nil⟩
  | cons f' ms =>
    rw [hms, List.head?_cons, Option.toList_some, List.forall₂_cons_left_iff] at hfilter
    obtain ⟨out, outs, hout, hnil, hsingle⟩ := hfilter
    obtain rfl := List.forall₂_nil_left_iff.mp hnil
    rw [hsingle] at hmembers
    have hf' : f' ∈ g.members rows f := by
      rw [hms]
      exact List.mem_cons_self
    obtain ⟨hmem, hsame⟩ := List.mem_filter.mp hf'
    rw [← members_congr hf (hexact f' hmem) hexact hsame, hms] at hout
    rw [List.perm_singleton.mp hmembers]
    exact ⟨[f' :: ms], List.append_nil _, .cons ⟨f', rfl, hout⟩ .nil⟩

variable {rowss outs : List (List Row)}

/-- The members of a group of finished blocks, part by part. -/
lemma exists_parts_of_blocks (hg : g.Nestable) (hexact : ∀ r ∈ rowss.flatten, g.Exact r)
    (hf : g.Exact f) (hblocks : List.Forall₂ g.Groups rowss outs) :
    ∃ mss, mss.flatten = g.members rowss.flatten f ∧
      List.Forall₂ g.IsPartial mss (g.members outs.flatten f) := by
  induction hblocks with
  | nil => exact ⟨[], rfl, .nil⟩
  | @cons rows out rowss outs h _ ih =>
    rw [List.flatten_cons, List.forall_mem_append] at hexact
    obtain ⟨mss, hmss, hparts⟩ := h.exists_parts hg hexact.1 hf
    obtain ⟨mss', hmss', hparts'⟩ := ih hexact.2
    refine ⟨mss ++ mss', ?_, ?_⟩
    · rw [List.flatten_append, List.flatten_cons, members_append, hmss, hmss']
    · rw [List.flatten_cons, members_append]
      exact List.rel_append hparts hparts'

/-- A finished row has the key and the length of some row of its block. -/
lemma exists_mem_of_mem_blocks (hg : g.Nestable) (hblocks : List.Forall₂ g.Groups rowss outs)
    (hp : p ∈ outs.flatten) :
    ∃ f ∈ rowss.flatten, g.keyOf p = g.keyOf f ∧ p.length = f.length := by
  obtain ⟨out, hout, hp⟩ := List.mem_flatten.mp hp
  obtain ⟨rows, hrows, merged, hmerged, hperm⟩ := exists_mem_of_forall₂ hblocks hout
  obtain ⟨f, hf, hrow⟩ := exists_mem_of_forall₂ hmerged (hperm.mem_iff.mp hp)
  exact ⟨f, List.mem_flatten.mpr ⟨rows, hrows, mem_of_mem_firstRows hf⟩,
    keyOf_of_mergedRow hg hrow, (of_mergedRow_eq_ok hrow).1⟩

lemma cell_eq_of_keyOf_eq (h : g.keyOf r = g.keyOf r') {c : Nat} (hc : c ∈ g.groupColumns) :
    r.cell c = r'.cell c :=
  List.map_inj_left.mp h c hc

lemma Exact.of_keyOf_eq (h : g.Exact r) (heq : g.keyOf r' = g.keyOf r) : g.Exact r' :=
  fun c hc => by
    rw [cell_eq_of_keyOf_eq heq hc]
    exact h c hc

/-! ### Results of parts -/

/-- The output of an aggregate of one value in finished rows of parts: its results of the parts. -/
lemma summaries_of_parts (hg : g.Nestable) (hparts : List.Forall₂ g.IsPartial mss ps)
    (hc : g.Combines mss.flatten) (ha : a ∈ g.aggregates) (hf : a.function ≠ .avg)
    (hlt : ∀ r ∈ mss.flatten, a.output < r.length) :
    List.Forall₂ (fun vs x => Summarizes vs a.function x) (mss.map (cellsOf · a.output))
      (cellsOf ps a.output) := by
  have hsub : ∀ ms ∈ mss, ms.Sublist mss.flatten := fun ms => List.sublist_flatten_of_mem
  rw [cellsOf, List.forall₂_map_left_iff, List.forall₂_map_right_iff]
  refine ((List.forall₂_and_left _ _).mpr ⟨hsub, hparts⟩).imp ?_
  rintro ms p ⟨hms, f, hfirst, hp⟩
  exact hg.summarizes_of_mergedRow (hc.sublist hms) hp ha hf
    (hlt f (hms.mem (List.mem_of_head? hfirst)))

lemma cellsOf_flatten (mss : List (List Row)) (i : Nat) :
    cellsOf mss.flatten i = (mss.map (cellsOf · i)).flatten :=
  List.map_flatten

/-- What summarizes the results of parts summarizes all of them. -/
lemma summarizes_of_parts (hg : g.Nestable) (hparts : List.Forall₂ g.IsPartial mss ps)
    (hc : g.Combines mss.flatten) (ha : a ∈ g.aggregates) (hf : a.function ≠ .avg)
    (hlt : ∀ r ∈ mss.flatten, a.output < r.length) {x : Cell}
    (hx : Summarizes (cellsOf ps a.output) a.function x) :
    Summarizes (cellsOf mss.flatten a.output) a.function x := by
  rw [cellsOf_flatten]
  exact hx.of_parts (summaries_of_parts hg hparts hc ha hf hlt)

/-- Results of parts can be fed together if the parts can. -/
lemma Combines.of_parts (hg : g.Nestable) (hparts : List.Forall₂ g.IsPartial mss ps)
    (hc : g.Combines mss.flatten)
    (hlt : ∀ r ∈ mss.flatten, ∀ a ∈ g.aggregates, a.output < r.length) : g.Combines ps := by
  intro a ha hf
  have hcells := hc a ha hf
  rw [cellsOf_flatten] at hcells
  exact hcells.of_parts (summaries_of_parts hg hparts hc ha hf fun r hr => hlt r hr a ha)

/-- The sums and the counts of a group that has an average. -/
lemma Combines.hasAverage (hc : g.Combines rows) {i n : Nat} (hf : a.function = .avg)
    (hin : a.inputs = [i, n]) (hi : ⟨.sum, i, [i]⟩ ∈ g.aggregates)
    (hn : ⟨.count, n, [n]⟩ ∈ g.aggregates) (havg : a.Averages g.averageScale rows) :
    HasAverage g.averageScale (cellsOf rows i) (cellsOf rows n) := by
  obtain ⟨hsums, hcounts⟩ := hc.addUp hi hn
  exact {
    isAddend := hsums.isAddend
    isCount := havg.isCount hf n (by rw [hin]; rfl)
    sums_addUp := hsums.addsUp
    counts_addUp := hcounts.addsUp
    divides := havg.divides hf i (by rw [hin]; rfl) }

/-- Rows that are the same up to the representation of counts and sums, which have the same
values. -/
structure Matches (g : Grouping) (r r' : Row) : Prop where
  length_eq : r.length = r'.length
  agrees : ∀ a ∈ g.aggregates, a.function = .sum ∨ a.function = .count →
    (r.cell a.output).Agrees (r'.cell a.output)
  cell_eq : ∀ i, (∀ a ∈ g.aggregates, a.output = i → a.function ≠ .sum ∧ a.function ≠ .count) →
    r.cell i = r'.cell i

/-- The first row of finished parts was finished from the first row of all. -/
lemma exists_mergedRow_head (hparts : List.Forall₂ g.IsPartial mss ps)
    (hf : mss.flatten.head? = some f) (hp : ps.head? = some p) :
    ∃ ms, g.mergedRow f ms = .ok p := by
  cases hparts with
  | nil => cases hp
  | @cons ms p' mss ps hpart _ =>
    obtain ⟨f', hfirst, hrow⟩ := hpart
    rw [List.flatten_cons, List.head?_append, hfirst, Option.some_or, Option.some.injEq] at hf
    rw [List.head?_cons, Option.some.injEq] at hp
    subst hf hp
    exact ⟨ms, hrow⟩

section Parts

variable (hg : g.Nestable) (hparts : List.Forall₂ g.IsPartial mss ps)
  (hc : g.Combines mss.flatten)
  (hlt : ∀ r ∈ mss.flatten, ∀ a ∈ g.aggregates, a.output < r.length)
  (hf : mss.flatten.head? = some f) (hp : ps.head? = some p)
  (hr : g.mergedRow f mss.flatten = .ok r) (hr' : g.mergedRow p ps = .ok r')

include hg hparts hc hlt hf hp hr hr'

/-- The output of an aggregate of one value summarizes all rows, also where it is finished from the
results of parts. -/
lemma summarizes_both (ha : a ∈ g.aggregates) (hfun : a.function ≠ .avg) :
    Summarizes (cellsOf mss.flatten a.output) a.function (r.cell a.output) ∧
      Summarizes (cellsOf mss.flatten a.output) a.function (r'.cell a.output) := by
  obtain ⟨ms, hrow⟩ := exists_mergedRow_head hparts hf hp
  have hout : a.output < f.length := hlt f (List.mem_of_head? hf) a ha
  have hout' : a.output < p.length := (of_mergedRow_eq_ok hrow).1 ▸ hout
  constructor
  · exact hg.summarizes_of_mergedRow hc hr ha hfun hout
  · exact summarizes_of_parts hg hparts hc ha hfun (fun r hr => hlt r hr a ha)
      (hg.summarizes_of_mergedRow (hc.of_parts hg hparts hlt) hr' ha hfun hout')

/-- The sum and the count that an average divides summarize all rows, also where they are finished
from the results of parts. -/
lemma average_eq_of_parts (ha : a ∈ g.aggregates) (hfun : a.function = .avg)
    (havg : a.Averages g.averageScale mss.flatten) : r.cell a.output = r'.cell a.output := by
  obtain ⟨ms, hrow⟩ := exists_mergedRow_head hparts hf hp
  have hout : a.output < f.length := hlt f (List.mem_of_head? hf) a ha
  have hout' : a.output < p.length := (of_mergedRow_eq_ok hrow).1 ▸ hout
  obtain ⟨i, n, hin, hi, hn⟩ := hg.derived a ha hfun
  obtain ⟨x, y, hx, hy, hcell⟩ := hg.exists_average_of_mergedRow hc hr ha hfun hout hin hi hn
  obtain ⟨x', y', hx', hy', hcell'⟩ :=
    hg.exists_average_of_mergedRow (hc.of_parts hg hparts hlt) hr' ha hfun hout' hin hi hn
  have hsum := summarizes_of_parts hg hparts hc hi (by simp) (fun r hr => hlt r hr _ hi) hx'
  have hcount := summarizes_of_parts hg hparts hc hn (by simp) (fun r hr => hlt r hr _ hn) hy'
  have h := hc.hasAverage hfun hin hi hn havg
  rw [hcell, hcell']
  exact (h.isAverage_of_summaries hx hy).unique (h.isAverage_of_summaries hsum hcount)

/-- A group that is finished from the results of its parts agrees with the one that is finished
from all rows. -/
lemma matches_of_parts (havg : ∀ a ∈ g.aggregates, a.Averages g.averageScale mss.flatten) :
    g.Matches r r' := by
  obtain ⟨ms, hrow⟩ := exists_mergedRow_head hparts hf hp
  refine ⟨?_, fun a ha hfun => ?_, fun i hi => ?_⟩
  · rw [(of_mergedRow_eq_ok hr).1, (of_mergedRow_eq_ok hr').1, (of_mergedRow_eq_ok hrow).1]
  · obtain ⟨h, h'⟩ := summarizes_both hg hparts hc hlt hf hp hr hr' ha
      (by rcases hfun with h | h <;> simp [h])
    exact h.agrees h' hfun
  · by_cases hwritten : ∃ a ∈ g.aggregates, a.output = i
    · obtain ⟨a, ha, rfl⟩ := hwritten
      by_cases hfun : a.function = .avg
      · exact average_eq_of_parts hg hparts hc hlt hf hp hr hr' ha hfun (havg a ha)
      · obtain ⟨h, h'⟩ := summarizes_both hg hparts hc hlt hf hp hr hr' ha hfun
        exact h.eq h' (hi a ha rfl)
    · -- no aggregate writes the column, and the finished row keeps its first row there
      have hnone (a : BoundAggregate) (ha : a ∈ g.aggregates) : a.output ≠ i :=
        fun heq => hwritten ⟨a, ha, heq⟩
      rw [cell_eq_of_mergedRow hr hnone, cell_eq_of_mergedRow hr' hnone,
        cell_eq_of_mergedRow hrow hnone]

end Parts

/-! ### Groups of blocks -/

/-- The groups of some rows could be finished from members that can be fed together. -/
lemma Finished.combines {merged : List Row} (hg : g.Nestable) (h : g.Finished rows merged)
    (hexact : ∀ r ∈ rows, g.Exact r)
    (hinputs : ∀ r ∈ rows, ∀ a ∈ g.aggregates, ∀ i ∈ a.inputs, (Row.cell r i).type? ≠ some .float64)
    (hadds : ∀ f ∈ rows, ∀ a ∈ g.aggregates, a.AddsUpOver (g.members rows f)) :
    ∀ f ∈ rows, g.Combines (g.members rows f) := by
  intro f hf
  obtain ⟨f', hf', hsame⟩ := exists_first hexact hf
  have hmem := mem_of_mem_firstRows hf'
  obtain ⟨out, -, hout⟩ := exists_mem_of_forall₂ h.flip hf'
  rw [members_congr (hexact f' hmem) (hexact f hf) hexact hsame] at hout
  exact hg.combines_of_mergedRow hout (fun r hr => hinputs r (List.mem_of_mem_filter hr))
    (hadds f hf)

/-- Groups whose members can be fed together can be finished. -/
lemma Nestable.exists_finished (hg : g.Nestable) (hc : ∀ f ∈ rows, g.Combines (g.members rows f))
    (hlt : ∀ r ∈ rows, ∀ a ∈ g.aggregates, a.output < r.length) :
    ∃ merged, g.Finished rows merged := by
  refine exists_finished_iff.mpr fun f hf => ?_
  have hf := mem_of_mem_firstRows hf
  exact exists_mergedRow (fun a ha => hg.exists_feedAll (hc f hf) ha) (hlt f hf)

/-- What can be fed together can be fed together in part. -/
lemma combines_of_sublist (hsub : rows.Sublist rows')
    (hc : ∀ f ∈ rows', g.Combines (g.members rows' f)) :
    ∀ f ∈ rows, g.Combines (g.members rows f) :=
  fun f hf => (hc f (hsub.mem hf)).sublist (hsub.filter _)

lemma members_eq_of_keyOf_eq (heq : g.keyOf p = g.keyOf f) (rows : List Row) :
    g.members rows p = g.members rows f :=
  List.filter_congr fun r _ => by rw [same, same, heq]

section Blocks

variable (hg : g.Nestable) (hblocks : List.Forall₂ g.Groups rowss outs)
  (hexact : ∀ r ∈ rowss.flatten, g.Exact r)

include hg hblocks hexact

lemma exact_of_mem_blocks : ∀ p ∈ outs.flatten, g.Exact p := by
  intro p hp
  obtain ⟨f, hf, hkey, -⟩ := exists_mem_of_mem_blocks hg hblocks hp
  exact (hexact f hf).of_keyOf_eq hkey

/-- In the finished rows of blocks, the members of a group can be fed together. -/
lemma combines_of_blocks (hlt : ∀ r ∈ rowss.flatten, ∀ a ∈ g.aggregates, a.output < r.length)
    (hc : ∀ f ∈ rowss.flatten, g.Combines (g.members rowss.flatten f)) :
    ∀ p ∈ outs.flatten, g.Combines (g.members outs.flatten p) := by
  intro p hp
  obtain ⟨f, hf, hkey, -⟩ := exists_mem_of_mem_blocks hg hblocks hp
  obtain ⟨mss, hmss, hparts⟩ := exists_parts_of_blocks hg hexact (hexact f hf) hblocks
  rw [members_eq_of_keyOf_eq hkey]
  refine Combines.of_parts hg hparts ?_ ?_
  · rw [hmss]
    exact hc f hf
  · rw [hmss]
    exact fun r hr => hlt r (List.mem_of_mem_filter hr)

variable {merged merged' : List Row} (h : g.Finished rowss.flatten merged)
  (h' : g.Finished outs.flatten merged')

include h h'

/-- Every group of all rows is a group of the finished rows of the blocks. -/
lemma exists_same_of_mem_merged (hr : r ∈ merged) : ∃ r' ∈ merged', g.same r r' = true := by
  have hexact' := exact_of_mem_blocks hg hblocks hexact
  obtain ⟨f, hf, hrow⟩ := exists_mem_of_forall₂ h hr
  have hmem := mem_of_mem_firstRows hf
  obtain ⟨mss, hmss, hparts⟩ := exists_parts_of_blocks hg hexact (hexact f hmem) hblocks
  have hself : f ∈ g.members rowss.flatten f :=
    List.mem_filter.mpr ⟨hmem, same_self (hexact f hmem)⟩
  -- the group of `f` has a part, and so a finished row in some block
  obtain ⟨p, hp⟩ : ∃ p, p ∈ g.members outs.flatten f := by
    rw [← hmss] at hself
    obtain ⟨ms, hms, -⟩ := List.mem_flatten.mp hself
    obtain ⟨p, hp, -⟩ := exists_mem_of_forall₂ hparts.flip hms
    exact ⟨p, hp⟩
  obtain ⟨hp, hfp⟩ := List.mem_filter.mp hp
  obtain ⟨p', hp', hsame⟩ := exists_first hexact' hp
  obtain ⟨r', hr', hrow'⟩ := exists_mem_of_forall₂ h'.flip hp'
  have hp'' := hexact' p' (mem_of_mem_firstRows hp')
  refine ⟨r', hr', ?_⟩
  rw [same, keyOf_of_mergedRow hg hrow, keyOf_of_mergedRow hg hrow', ← same,
    same_comm (hexact f hmem) hp'', same_congr_left hp'' (hexact' p hp) (hexact f hmem) hsame,
    same_comm (hexact' p hp) (hexact f hmem)]
  exact hfp

/-- Every group of the finished rows of the blocks is a group of all rows. -/
lemma exists_same_of_mem_merged' (hr' : r' ∈ merged') : ∃ r ∈ merged, g.same r r' = true := by
  obtain ⟨p, hp, hrow'⟩ := exists_mem_of_forall₂ h' hr'
  obtain ⟨f, hf, hkey, -⟩ := exists_mem_of_mem_blocks hg hblocks (mem_of_mem_firstRows hp)
  obtain ⟨f', hf', hsame⟩ := exists_first hexact hf
  obtain ⟨r, hr, hrow⟩ := exists_mem_of_forall₂ h.flip hf'
  refine ⟨r, hr, ?_⟩
  rw [same, keyOf_of_mergedRow hg hrow, keyOf_of_mergedRow hg hrow', hkey]
  exact hsame

/-- Finished rows of one group agree. -/
lemma matches_of_same (hlt : ∀ r ∈ rowss.flatten, ∀ a ∈ g.aggregates, a.output < r.length)
    (hc : ∀ f ∈ rowss.flatten, g.Combines (g.members rowss.flatten f))
    (havg : ∀ f ∈ rowss.flatten, ∀ a ∈ g.aggregates,
      a.Averages g.averageScale (g.members rowss.flatten f))
    (hr : r ∈ merged) (hr' : r' ∈ merged') (hsame : g.same r r' = true) : g.Matches r r' := by
  have hexact' := exact_of_mem_blocks hg hblocks hexact
  obtain ⟨f, hf, hrow⟩ := exists_mem_of_forall₂ h hr
  obtain ⟨p, hp, hrow'⟩ := exists_mem_of_forall₂ h' hr'
  obtain ⟨hmem, hfirst⟩ := (mem_firstRows_iff hexact).mp hf
  obtain ⟨hmem', hfirst'⟩ := (mem_firstRows_iff hexact').mp hp
  rw [same, keyOf_of_mergedRow hg hrow, keyOf_of_mergedRow hg hrow', ← same] at hsame
  obtain ⟨mss, hmss, hparts⟩ := exists_parts_of_blocks hg hexact (hexact f hmem) hblocks
  rw [members_congr (hexact f hmem) (hexact' p hmem') hexact' hsame] at hparts
  rw [← hmss] at hfirst hrow
  refine matches_of_parts hg hparts ?_ ?_ hfirst hfirst' hrow hrow' ?_
  · rw [hmss]
    exact hc f hmem
  · rw [hmss]
    exact fun r hr => hlt r (List.mem_of_mem_filter hr)
  · rw [hmss]
    exact havg f hmem

end Blocks

/-- Sorted by the group columns, finished rows stand in strict order. -/
lemma Finished.pairwise_sort_lt {o : RowOrder} {merged : List Row} (hg : g.Nestable)
    (hcols : g.groupColumns = o.columns) (hexact : ∀ r ∈ rows, g.Exact r)
    (h : g.Finished rows merged) :
    (o.sort merged).Pairwise fun r r' => o.comparePlaces r r' = .lt := by
  have hmerged : ∀ r ∈ merged, o.Exact r :=
    h.exact (hcols ▸ hg.notMem_groupColumns) fun r hr => (exact_iff hcols).mp (hexact r hr)
  have hsort := RowOrder.isStableSort_sort_comparePlaces hmerged
  have hpairs := hsort.perm.symm.pairwise (h.pairwise hexact hg.notMem_groupColumns) And.symm
  refine (hsort.sorted.and hpairs).imp_of_mem fun {r r'} hr hr' hboth => ?_
  exact comparePlaces_eq_lt hcols (hmerged r (hsort.perm.mem_iff.mp hr))
    (hmerged r' (hsort.perm.mem_iff.mp hr')) hboth.1 hboth.2.1

/-- Sorted by the group columns, the finished groups of all rows and the finished groups of the
finished rows of their blocks agree row by row. -/
theorem forall₂_matches {o : RowOrder} {merged merged' : List Row} (hg : g.Nestable)
    (hcols : g.groupColumns = o.columns) (hblocks : List.Forall₂ g.Groups rowss outs)
    (hexact : ∀ r ∈ rowss.flatten, g.Exact r)
    (hlt : ∀ r ∈ rowss.flatten, ∀ a ∈ g.aggregates, a.output < r.length)
    (hc : ∀ f ∈ rowss.flatten, g.Combines (g.members rowss.flatten f))
    (havg : ∀ f ∈ rowss.flatten, ∀ a ∈ g.aggregates,
      a.Averages g.averageScale (g.members rowss.flatten f))
    (h : g.Finished rowss.flatten merged) (h' : g.Finished outs.flatten merged') :
    List.Forall₂ g.Matches (o.sort merged) (o.sort merged') := by
  have hexact' := exact_of_mem_blocks hg hblocks hexact
  have hout : ∀ a ∈ g.aggregates, a.output ∉ o.columns := hcols ▸ hg.notMem_groupColumns
  have hmerged := h.exact hout fun r hr => (exact_iff hcols).mp (hexact r hr)
  have hmerged' := h'.exact hout fun r hr => (exact_iff hcols).mp (hexact' r hr)
  have hsort : (o.sort merged).Perm merged := List.mergeSort_perm _ _
  have hsort' : (o.sort merged').Perm merged' := List.mergeSort_perm _ _
  refine forall₂_of_pairwise_lt (h.pairwise_sort_lt hg hcols hexact)
    (h'.pairwise_sort_lt hg hcols hexact') ?_ ?_ ?_
  · intro r hr
    have hr := hsort.mem_iff.mp hr
    obtain ⟨r', hr', hsame⟩ := exists_same_of_mem_merged hg hblocks hexact h h' hr
    refine ⟨r', hsort'.mem_iff.mpr hr', ?_⟩
    rwa [← same_iff_comparePlaces hcols (hmerged r hr) (hmerged' r' hr')]
  · intro r' hr'
    have hr' := hsort'.mem_iff.mp hr'
    obtain ⟨r, hr, hsame⟩ := exists_same_of_mem_merged' hg hblocks hexact h h' hr'
    refine ⟨r, hsort.mem_iff.mpr hr, ?_⟩
    rwa [← same_iff_comparePlaces hcols (hmerged r hr) (hmerged' r' hr')]
  · intro r hr r' hr' htie
    have hr := hsort.mem_iff.mp hr
    have hr' := hsort'.mem_iff.mp hr'
    rw [← same_iff_comparePlaces hcols (hmerged r hr) (hmerged' r' hr')] at htie
    exact matches_of_same hg hblocks hexact h h' hlt hc havg hr hr' htie

end Grouping

end Confluence
