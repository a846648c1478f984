import Confluence.Proofs.Group.Merged
import Confluence.Proofs.Group.RunningValues
import Confluence.Proofs.Pointwise

/-!
# Groups of rows in another order

Rows in another order form the same groups. Their first rows may differ, but each aggregate whose
values can be added comes to the same value.
-/

namespace Confluence

open Cell Accumulator

/-- Whether a cell counts something: it is NULL or an integer. -/
def Cell.IsCount (v : Cell) : Prop := v.isNull = true ∨ v.toInt64?.isSome = true

instance (v : Cell) : Decidable v.IsCount := inferInstanceAs (Decidable (_ ∨ _))

lemma Cell.IsCount.scale_eq_zero {v : Cell} {d : Decimal} (h : v.IsCount)
    (hd : v.toDecimal? = some d) : d.scale.val = 0 := by
  rcases h with hnull | hint
  · rw [isNull_of_toDecimal? hd] at hnull
    cases hnull
  · cases v with
    | int32 n =>
      cases hd
      rfl
    | int64 n =>
      cases hd
      rfl
    | _ => cases hint

/-- Both NULL, or equal as SQL values. -/
def Cell.Agrees (v w : Cell) : Prop := (v = .null ∧ w = .null) ∨ v.sameValue w = true

lemma Cell.agrees_of_place_eq {v w : Cell} (hv : v.type? ≠ some .float64)
    (hw : w.type? ≠ some .float64) (h : v.place = w.place) : v.Agrees w := by
  have hsame := (sameGroup_iff hv hw).mpr h
  rw [sameGroup] at hsame
  split at hsame
  next hnull hnull' => exact Or.inl ⟨isNull_eq_true_iff.mp hnull, isNull_eq_true_iff.mp hnull'⟩
  · exact Or.inr hsame
  · cases hsame

namespace Accumulator

variable {vs ws : List Cell} {t t' c c' : Option Cell}

lemma IsTotal.getD_agrees (h : IsTotal vs t) (h' : IsTotal ws t') (hperm : vs.Perm ws) {z : Cell}
    (hz : z.type? ≠ some .float64) : (t.getD z).Agrees (t'.getD z) := by
  rcases h.perm h' hperm with ⟨rfl, rfl⟩ | ⟨x, y, d, rfl, rfl, hx, hy, -⟩
  · exact agrees_of_place_eq hz hz rfl
  · exact agrees_of_place_eq (type?_ne_of_toDecimal? hx) (type?_ne_of_toDecimal? hy)
      ((place_of_toDecimal? hx).trans (place_of_toDecimal? hy).symm)

lemma IsExtremum.getD_agrees {wanted : Ordering} (h : IsExtremum wanted vs t)
    (hw : wanted ≠ .eq) (h' : IsExtremum wanted ws t') (hperm : vs.Perm ws)
    (hexact : ∀ v ∈ vs, v.type? ≠ some .float64) : (t.getD .null).Agrees (t'.getD .null) := by
  rcases h.perm hw h' hperm with ⟨rfl, rfl⟩ | ⟨x, y, rfl, rfl, hx, hy, hplace⟩
  · exact Or.inl ⟨rfl, rfl⟩
  · exact agrees_of_place_eq (hexact x hx) (hexact y (hperm.mem_iff.mpr hy)) hplace

/-- Totals of counts are integers. -/
lemma IsTotal.exists_count (h : IsTotal vs c) (h' : IsTotal ws c') (hperm : vs.Perm ws)
    (hcounts : ∀ v ∈ vs, v.IsCount) :
    ∃ e, (c.getD zeroCount).toDecimal? = some e ∧ (c'.getD zeroCount).toDecimal? = some e ∧
      e.scale.val = 0 := by
  rcases h.perm h' hperm with ⟨rfl, rfl⟩ | ⟨x, y, d, rfl, rfl, hx, hy, hsum⟩
  · exact ⟨_, rfl, rfl, rfl⟩
  · refine ⟨d, hx, hy, ?_⟩
    rw [hsum.scale_eq]
    apply Decimal.largestScale_eq_zero
    intro e he
    obtain ⟨v, hv, hve⟩ := List.mem_filterMap.mp he
    exact (hcounts v hv).scale_eq_zero hve

/-- Averages of the same sums and counts in any order are the same. -/
lemma average_agrees {vs ws ns ms : List Cell} {places : Decimal.Scale} (ht : IsTotal vs t)
    (ht' : IsTotal ws t') (hperm : vs.Perm ws) (hc : IsTotal ns c) (hc' : IsTotal ms c')
    (hperm' : ns.Perm ms) (hcounts : ∀ v ∈ ns, v.IsCount)
    (hdivides : exacts vs ≠ [] → Decimal.Divides (exacts vs) places) :
    (average (t.getD .null) (c.getD zeroCount) places).Agrees
      (average (t'.getD .null) (c'.getD zeroCount) places) := by
  rcases ht.perm ht' hperm with ⟨rfl, rfl⟩ | ⟨x, y, d, rfl, rfl, hx, hy, hsum⟩
  · exact Or.inl ⟨rfl, rfl⟩
  · obtain ⟨e, he, he', hscale⟩ := hc.exists_count hc' hperm' hcounts
    obtain ⟨heq, htype⟩ := average_eq hx hy he he' hscale
      fun n hn => hsum.exists_divRound? (hdivides ht.1) hn
    simp only [Option.getD_some]
    rw [← heq]
    exact agrees_of_place_eq htype htype rfl

end Accumulator

/-- The cells of a column. -/
def cellsOf (rows : List Row) (column : Nat) : List Cell := rows.map (·.cell column)

namespace BoundAggregate

/-- Whether the columns that an aggregate adds up, if it does, can be added in any order. -/
def AddsUpOver (a : BoundAggregate) (rows : List Row) : Prop :=
  a.function = .sum ∨ a.function = .count ∨ a.function = .avg →
    ∀ i ∈ a.inputs, Decimal.AddsUp (exacts (cellsOf rows i))

/-- What an average needs of the rows of a group: integers as counts, and a total that can be
divided, if there is one. -/
structure Averages (a : BoundAggregate) (places : Decimal.Scale) (rows : List Row) : Prop where
  isCount : a.function = .avg → ∀ i ∈ a.inputs[1]?, ∀ v ∈ cellsOf rows i, v.IsCount
  divides : a.function = .avg → ∀ i ∈ a.inputs[0]?, exacts (cellsOf rows i) ≠ [] →
    Decimal.Divides (exacts (cellsOf rows i)) places

instance (a : BoundAggregate) (places : Decimal.Scale) (rows : List Row) :
    Decidable (a.Averages places rows) :=
  decidable_of_iff
    ((a.function = .avg → ∀ i ∈ a.inputs[1]?, ∀ v ∈ cellsOf rows i, v.IsCount) ∧
      (a.function = .avg → ∀ i ∈ a.inputs[0]?, exacts (cellsOf rows i) ≠ [] →
        Decimal.Divides (exacts (cellsOf rows i)) places))
    ⟨fun ⟨h₁, h₂⟩ => ⟨h₁, h₂⟩, fun ⟨h₁, h₂⟩ => ⟨h₁, h₂⟩⟩

/-- What keeps an aggregate exact over some rows, whatever their order: the columns that it adds up
do not overflow, and an average divides an exact sum by integers. -/
structure StaysExact (a : BoundAggregate) (places : Decimal.Scale) (rows : List Row) : Prop
    extends a.Averages places rows where
  addsUp : a.AddsUpOver rows

instance (a : BoundAggregate) (rows : List Row) : Decidable (a.AddsUpOver rows) :=
  inferInstanceAs (Decidable (_ → ∀ i ∈ a.inputs, Decimal.AddsUp (exacts (cellsOf rows i))))

instance (a : BoundAggregate) (places : Decimal.Scale) (rows : List Row) :
    Decidable (a.StaysExact places rows) :=
  decidable_of_iff (a.Averages places rows ∧ a.AddsUpOver rows)
    ⟨fun ⟨h₁, h₂⟩ => ⟨h₁, h₂⟩, fun ⟨h₁, h₂⟩ => ⟨h₁, h₂⟩⟩

/-- What the accumulator of an aggregate holds after it was fed some rows. -/
inductive Reflects (places : Decimal.Scale) (rows : List Row) : BoundAggregate → Accumulator → Prop
  | count {output i : Nat} {t : Option Cell} (h : IsTotal (cellsOf rows i) t) :
    Reflects places rows ⟨.count, output, [i]⟩ (.count t)
  | sum {output i : Nat} {t : Option Cell} (h : IsTotal (cellsOf rows i) t) :
    Reflects places rows ⟨.sum, output, [i]⟩ (.sum t)
  | max {output i : Nat} {t : Option Cell} (h : IsExtremum .gt (cellsOf rows i) t) :
    Reflects places rows ⟨.max, output, [i]⟩ (.max t)
  | min {output i : Nat} {t : Option Cell} (h : IsExtremum .lt (cellsOf rows i) t) :
    Reflects places rows ⟨.min, output, [i]⟩ (.min t)
  | avg {output i n : Nat} {t c : Option Cell} (ht : IsTotal (cellsOf rows i) t)
    (hc : IsTotal (cellsOf rows n) c) :
    Reflects places rows ⟨.avg, output, [i, n]⟩ (.avg t c places)

variable {a : BoundAggregate} {places : Decimal.Scale} {rows rows' : List Row} {r : Row}
  {u u' : Accumulator}

lemma reflects_new (ha : a.Fed) : Reflects places [] a (.new a.function places) := by
  obtain ⟨function, output, inputs⟩ := a
  cases function with
  | avg =>
    obtain ⟨i, n, rfl⟩ := ha
    exact .avg isTotal_nil isTotal_nil
  | count =>
    obtain ⟨i, rfl⟩ := ha
    exact .count isTotal_nil
  | sum =>
    obtain ⟨i, rfl⟩ := ha
    exact .sum isTotal_nil
  | max =>
    obtain ⟨i, rfl⟩ := ha
    exact .max (isExtremum_nil .gt)
  | min =>
    obtain ⟨i, rfl⟩ := ha
    exact .min (isExtremum_nil .lt)

/-- Feeding one more row. -/
lemma Reflects.step (h : Reflects places rows a u)
    (hexact : ∀ r' ∈ rows ++ [r], ∀ i, (Row.cell r' i).type? ≠ some .float64)
    (hadds : a.AddsUpOver (rows ++ [r])) (hstep : a.step u r = .ok u') :
    Reflects places (rows ++ [r]) a u' := by
  have hcells (i : Nat) : cellsOf (rows ++ [r]) i = cellsOf rows i ++ [r.cell i] := List.map_append
  have hcell (i : Nat) : ∀ v ∈ cellsOf rows i ++ [r.cell i], v.type? ≠ some .float64 := by
    rw [← hcells, cellsOf, List.forall_mem_map]
    exact fun r' hr' => hexact r' hr' i
  have hlast (i : Nat) : (r.cell i).type? ≠ some .float64 :=
    hcell i _ (List.mem_append_right _ (List.mem_singleton_self _))
  have htotal {i : Nat} {t t' : Option Cell} (ht : IsTotal (cellsOf rows i) t)
      (hi : Decimal.AddsUp (exacts (cellsOf (rows ++ [r]) i)))
      (hadd : addTo t (r.cell i) = (.ok (), t')) : IsTotal (cellsOf (rows ++ [r]) i) t' := by
    rw [hcells] at hi ⊢
    exact ht.addTo (hlast i) hi hadd
  have hextremum {i : Nat} {wanted : Ordering} {t t' : Option Cell} (hw : wanted ≠ .eq)
      (ht : IsExtremum wanted (cellsOf rows i) t)
      (hkeep : keepExtremum wanted t (r.cell i) = (.ok (), t')) :
      IsExtremum wanted (cellsOf (rows ++ [r]) i) t' := by
    rw [hcells]
    exact ht.keepExtremum hw (hcell i) hkeep
  cases h with
  | @count output i t ht =>
    rcases hadd : addTo t (r.cell i) with ⟨e | _, t'⟩
    · simp [BoundAggregate.step, merge, hadd] at hstep
    · simp only [BoundAggregate.step, List.map_cons, List.map_nil, merge, hadd] at hstep
      cases hstep
      exact .count (htotal ht (hadds (by simp) i (by simp)) hadd)
  | @sum output i t ht =>
    rcases hadd : addTo t (r.cell i) with ⟨e | _, t'⟩
    · simp [BoundAggregate.step, merge, hadd] at hstep
    · simp only [BoundAggregate.step, List.map_cons, List.map_nil, merge, hadd] at hstep
      cases hstep
      exact .sum (htotal ht (hadds (by simp) i (by simp)) hadd)
  | @max output i t ht =>
    rcases hkeep : keepExtremum .gt t (r.cell i) with ⟨e | _, t'⟩
    · simp [BoundAggregate.step, merge, hkeep] at hstep
    · simp only [BoundAggregate.step, List.map_cons, List.map_nil, merge, hkeep] at hstep
      cases hstep
      exact .max (hextremum (by decide) ht hkeep)
  | @min output i t ht =>
    rcases hkeep : keepExtremum .lt t (r.cell i) with ⟨e | _, t'⟩
    · simp [BoundAggregate.step, merge, hkeep] at hstep
    · simp only [BoundAggregate.step, List.map_cons, List.map_nil, merge, hkeep] at hstep
      cases hstep
      exact .min (hextremum (by decide) ht hkeep)
  | @avg output i n t c ht hc =>
    rcases hadd : addTo t (r.cell i) with ⟨e | _, t'⟩
    · simp [BoundAggregate.step, merge, hadd] at hstep
    · rcases hadd' : addTo c (r.cell n) with ⟨e | _, c'⟩
      · simp [BoundAggregate.step, merge, hadd, hadd'] at hstep
      · simp only [BoundAggregate.step, List.map_cons, List.map_nil, merge, hadd, hadd'] at hstep
        cases hstep
        exact .avg (htotal ht (hadds (by simp) i (by simp)) hadd)
          (htotal hc (hadds (by simp) n (by simp)) hadd')

lemma AddsUpOver.of_append_singleton (h : a.AddsUpOver (rows ++ [r])) : a.AddsUpOver rows := by
  intro hfunction i hi
  exact (h hfunction i hi).sublist (exacts_sublist ((List.sublist_append_left rows [r]).map _))

lemma AddsUpOver.perm (h : a.AddsUpOver rows) (hperm : rows.Perm rows') : a.AddsUpOver rows' :=
  fun hfunction i hi => (h hfunction i hi).perm ((hperm.map _).filterMap _)

/-- An accumulator that was fed some rows reflects them. -/
lemma reflects_of_feedAll (ha : a.Fed)
    (hexact : ∀ r ∈ rows, ∀ i, (Row.cell r i).type? ≠ some .float64)
    (hadds : a.AddsUpOver rows) (h : a.feedAll places rows = .ok u) :
    Reflects places rows a u := by
  induction rows using List.reverseRecOn generalizing u with
  | nil =>
    cases h
    exact reflects_new ha
  | append_singleton rows r ih =>
    obtain ⟨u₁, hrows, hstep⟩ := exists_step_of_feedAll h
    have hreflects := ih (fun r' hr' => hexact r' (List.mem_append_left _ hr'))
      hadds.of_append_singleton hrows
    exact hreflects.step hexact hadds hstep

/-- An aggregate that stays exact comes to one value over the same rows in any order. -/
lemma Reflects.result_agrees (h : Reflects places rows a u) (h' : Reflects places rows' a u')
    (hperm : rows.Perm rows') (hstays : a.StaysExact places rows)
    (hexact : ∀ r ∈ rows, ∀ i, (Row.cell r i).type? ≠ some .float64) :
    u.result.Agrees u'.result := by
  have hcells (i : Nat) : (cellsOf rows i).Perm (cellsOf rows' i) := hperm.map _
  have hcell (i : Nat) : ∀ v ∈ cellsOf rows i, v.type? ≠ some .float64 := by
    rw [cellsOf, List.forall_mem_map]
    exact fun r hr => hexact r hr i
  cases h with
  | @count output i t ht =>
    cases h' with
    | count ht' => exact ht.getD_agrees ht' (hcells i) (by decide)
  | @sum output i t ht =>
    cases h' with
    | sum ht' => exact ht.getD_agrees ht' (hcells i) (by decide)
  | @max output i t ht =>
    cases h' with
    | max ht' => exact ht.getD_agrees (by decide) ht' (hcells i) (hcell i)
  | @min output i t ht =>
    cases h' with
    | min ht' => exact ht.getD_agrees (by decide) ht' (hcells i) (hcell i)
  | @avg output i n t c ht hc =>
    cases h' with
    | avg ht' hc' =>
      have hcounts := hstays.isCount rfl n rfl
      have hdivides := hstays.divides rfl i rfl
      exact average_agrees ht ht' (hcells i) hc hc' (hcells n) hcounts hdivides

end BoundAggregate

/-! ### Finished groups -/

namespace Grouping

variable {g : Grouping} {f f' r r' : Row} {rows rows' ms merged merged' : List Row}

/-- Without aggregates that write into group columns, a finished group has the key of its first
row. -/
lemma keyOf_mergedRow (h : g.mergedRow f ms = .ok r)
    (hkeys : ∀ a ∈ g.aggregates, a.output ∉ g.groupColumns) : g.keyOf r = g.keyOf f := by
  refine List.map_congr_left fun column hcolumn => ?_
  refine cell_eq_of_mergedRow h fun a ha hout => hkeys a ha ?_
  rwa [hout]

/-- No two finished groups have the same key. -/
lemma Finished.pairwise (h : g.Finished rows merged) (hexact : ∀ r ∈ rows, g.Exact r)
    (hkeys : ∀ a ∈ g.aggregates, a.output ∉ g.groupColumns) :
    merged.Pairwise fun r r' => g.same r r' = false ∧ g.same r' r = false := by
  have hfirst : (g.firstRows rows).Pairwise fun f f' => g.same f f' = false ∧ g.same f' f = false :=
    (pairwise_firstRows hexact).imp_of_mem fun hf hf' hsame =>
      ⟨hsame, by rwa [same_comm (hexact _ (mem_of_mem_firstRows hf'))
        (hexact _ (mem_of_mem_firstRows hf))]⟩
  refine pairwise_of_forall₂ h hfirst fun hr hr' hsame => ?_
  rwa [same, same, keyOf_mergedRow hr hkeys, keyOf_mergedRow hr' hkeys]

/-- The rows in another order have the same groups. -/
lemma Finished.exists_same (h : g.Finished rows merged) (h' : g.Finished rows' merged')
    (hperm : rows.Perm rows') (hexact : ∀ r ∈ rows, g.Exact r)
    (hkeys : ∀ a ∈ g.aggregates, a.output ∉ g.groupColumns) (hr : r ∈ merged) :
    ∃ r' ∈ merged', g.same r r' = true ∧ g.same r' r = true := by
  have hexact' : ∀ r ∈ rows', g.Exact r := fun r hr => hexact r (hperm.mem_iff.mpr hr)
  obtain ⟨f, hf, hout⟩ := exists_mem_of_forall₂ h hr
  have hmem := mem_of_mem_firstRows hf
  obtain ⟨f', hf', hsame⟩ := Grouping.exists_first hexact' (hperm.mem_iff.mp hmem)
  obtain ⟨r', hr', hout'⟩ := exists_mem_of_forall₂ h'.flip hf'
  have hsame' : g.same f f' = true := by
    rwa [same_comm (hexact f hmem) (hexact' f' (mem_of_mem_firstRows hf'))]
  refine ⟨r', hr', ?_, ?_⟩
  · rwa [same, keyOf_mergedRow hout hkeys, keyOf_mergedRow hout' hkeys]
  · rwa [same, keyOf_mergedRow hout hkeys, keyOf_mergedRow hout' hkeys]

/-- An output of only one aggregate is the result of its accumulator. -/
lemma exists_result_of_mergedRow {a : BoundAggregate} (h : g.mergedRow f ms = .ok r)
    (ha : g.aggregates.filter (fun a' => a'.output = a.output) = [a]) (hlt : a.output < f.length) :
    ∃ u, a.feedAll g.averageScale ms = .ok u ∧ r.cell a.output = u.result := by
  have hmem : a ∈ g.aggregates := by
    have : a ∈ g.aggregates.filter fun a' => a'.output = a.output := by
      rw [ha]
      exact List.mem_singleton_self a
    exact List.mem_of_mem_filter this
  have hwriter : BoundAggregate.writer? g.aggregates a.output = some a := by
    cases hw : BoundAggregate.writer? g.aggregates a.output with
    | none =>
      rw [BoundAggregate.writer?, List.find?_eq_none] at hw
      exact absurd (decide_eq_true rfl) (hw a (List.mem_reverse.mpr hmem))
    | some a' =>
      rw [BoundAggregate.writer?] at hw
      have hout := List.find?_some hw
      have ha' : a' ∈ g.aggregates.filter fun a' => a'.output = a.output :=
        List.mem_filter.mpr ⟨List.mem_reverse.mp (List.mem_of_find?_eq_some hw), hout⟩
      rw [ha, List.mem_singleton] at ha'
      rw [ha']
  have hcell := (of_mergedRow_eq_ok h).2 a.output hlt
  rwa [hwriter] at hcell

/-- In groups with the same key, an aggregate that stays exact comes to the same value. -/
lemma Finished.agrees {a : BoundAggregate} (h : g.Finished rows merged)
    (h' : g.Finished rows' merged') (hperm : rows.Perm rows')
    (hexact : ∀ r ∈ rows, ∀ i, (Row.cell r i).type? ≠ some .float64)
    (hkeys : ∀ a ∈ g.aggregates, a.output ∉ g.groupColumns)
    (ha : g.aggregates.filter (fun a' => a'.output = a.output) = [a]) (hfed : a.Fed)
    (hlt : ∀ r ∈ rows, a.output < r.length)
    (hstays : ∀ f ∈ rows, a.StaysExact g.averageScale (g.members rows f)) (hr : r ∈ merged)
    (hr' : r' ∈ merged') (hsame : g.same r r' = true) :
    (r.cell a.output).Agrees (r'.cell a.output) := by
  obtain ⟨f, hf, hout⟩ := exists_mem_of_forall₂ h hr
  obtain ⟨f', hf', hout'⟩ := exists_mem_of_forall₂ h' hr'
  have hmem := mem_of_mem_firstRows hf
  have hmem' := hperm.mem_iff.mpr (mem_of_mem_firstRows hf')
  rw [same, keyOf_mergedRow hout hkeys, keyOf_mergedRow hout' hkeys] at hsame
  have hgexact : ∀ r ∈ rows, g.Exact r := fun r hr i _ => hexact r hr i
  have hmembers : (g.members rows f).Perm (g.members rows' f') := by
    rw [members_congr (hgexact f hmem) (hgexact f' hmem') hgexact hsame]
    exact hperm.filter _
  have hmemexact : ∀ r ∈ g.members rows f, ∀ i, (Row.cell r i).type? ≠ some .float64 :=
    fun r hr => hexact r (List.mem_of_mem_filter hr)
  obtain ⟨u, hu, hcell⟩ := exists_result_of_mergedRow hout ha (hlt f hmem)
  obtain ⟨u', hu', hcell'⟩ := exists_result_of_mergedRow hout' ha (hlt f' hmem')
  have hadds := (hstays f hmem).addsUp
  have hreflects := BoundAggregate.reflects_of_feedAll hfed hmemexact hadds hu
  have hreflects' := BoundAggregate.reflects_of_feedAll hfed
    (fun r hr => hmemexact r (hmembers.mem_iff.mpr hr)) (hadds.perm hmembers) hu'
  rw [hcell, hcell']
  exact hreflects.result_agrees hreflects' hmembers (hstays f hmem) hmemexact

end Grouping

end Confluence
