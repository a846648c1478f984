import Confluence.Proofs.Group.Redistribution
import Confluence.Proofs.Number.Rounding

/-!
# Averages of partial results

An average is fed the sums and the counts of several shards. As long as both add up exactly and the
sum can be divided, no row of partial results is refused, and the result is the quotient of the two
totals, rounded once, whatever the order of the rows.
-/

namespace Confluence

open Cell

namespace Cell

/-- The sum of the exact values among some cells. -/
def totalOf (vs : List Cell) : ℚ := ((exacts vs).map Decimal.value).sum

/-- Whether a cell is NULL or an exact number. -/
def IsAddend (v : Cell) : Prop := v = .null ∨ v.toDecimal?.isSome = true

instance (v : Cell) : Decidable v.IsAddend := inferInstanceAs (Decidable (_ ∨ _))

lemma IsCount.isAddend {v : Cell} (h : v.IsCount) : v.IsAddend := by
  rcases h with hnull | hint
  · exact Or.inl (isNull_eq_true_iff.mp hnull)
  · cases v with
    | int32 n => exact Or.inr rfl
    | int64 n => exact Or.inr rfl
    | _ => cases hint

lemma IsAddend.eq_null_of_exacts {vs : List Cell} {v : Cell} (h : v.IsAddend) (hv : v ∈ vs)
    (hnil : exacts vs = []) : v = .null := by
  rcases h with hnull | hexact
  · exact hnull
  · obtain ⟨d, hd⟩ := Option.isSome_iff_exists.mp hexact
    exact absurd hnil (exacts_ne_nil hv hd)

lemma totalOf_perm {vs ws : List Cell} (h : vs.Perm ws) : totalOf vs = totalOf ws :=
  ((h.filterMap _).map _).sum_eq

end Cell

namespace Accumulator

variable {vs ns sums counts : List Cell} {v n : Cell} {t c : Option Cell} {places : Decimal.Scale}

/-! ### Rows of partial results -/

/-- Fold in the partial results of one row, or fail. -/
def merged (u : Accumulator) (inputs : List Cell) : Except Failure Accumulator :=
  match u.merge inputs with
  | (.ok (), u) => .ok u
  | (.error e, _) => .error e

/-- Fold in the partial results of several rows, one after the other. -/
def mergeAll (u : Accumulator) (rows : List (List Cell)) : Except Failure Accumulator :=
  rows.foldlM merged u

lemma mergeAll_append_singleton {u u' : Accumulator} {rows : List (List Cell)}
    (h : u.mergeAll rows = .ok u') (inputs : List Cell) :
    u.mergeAll (rows ++ [inputs]) = u'.merged inputs := by
  rw [mergeAll] at h
  rw [mergeAll, List.foldlM_append, h]
  exact bind_pure (u'.merged inputs)

lemma exists_merged_of_mergeAll {u u' : Accumulator} {rows : List (List Cell)} {inputs : List Cell}
    (h : u.mergeAll (rows ++ [inputs]) = .ok u') :
    ∃ u₁, u.mergeAll rows = .ok u₁ ∧ u₁.merged inputs = .ok u' := by
  rw [mergeAll, List.foldlM_append] at h
  obtain ⟨u₁, hrows, hmerge⟩ := exists_of_bind_eq_ok h
  exact ⟨u₁, hrows, (bind_pure (u₁.merged inputs)).symm.trans hmerge⟩

/-! ### Totals -/

/-- No addend is refused as long as the values add up. -/
lemma IsTotal.exists_addTo (h : IsTotal vs t) (hv : v.IsAddend)
    (hb : Decimal.AddsUp (exacts (vs ++ [v]))) :
    ∃ t', Accumulator.addTo t v = (.ok (), t') ∧ IsTotal (vs ++ [v]) t' := by
  have hok : ∃ t', Accumulator.addTo t v = (.ok (), t') := by
    rcases hv with rfl | hexact
    · exact ⟨t, rfl⟩
    · obtain ⟨e, he⟩ := Option.isSome_iff_exists.mp hexact
      rw [Accumulator.addTo.eq_def, isNull_of_toDecimal? he, if_neg Bool.false_ne_true,
        if_neg (not_not.mpr (family?_of_toDecimal? he))]
      cases t with
      | none => exact ⟨_, rfl⟩
      | some x =>
        obtain ⟨-, d, hd, hsum⟩ := h
        rw [exacts_append_singleton vs he] at hb
        obtain ⟨s, hs, -⟩ := hsum.exists_add? hb
        obtain ⟨y, hy, -⟩ := Cell.exists_add? hd he hs
        exact ⟨some y, by simp only [hy]⟩
  obtain ⟨t', ht'⟩ := hok
  refine ⟨t', ht', h.addTo ?_ hb ht'⟩
  rcases hv with rfl | hexact
  · simp [type?]
  · obtain ⟨e, he⟩ := Option.isSome_iff_exists.mp hexact
    exact type?_ne_of_toDecimal? he

/-- A total with zero for a missing one is an exact sum. -/
lemma IsTotal.isSum_getD_zeroCount (h : IsTotal ns c) :
    ∃ e, (c.getD zeroCount).toDecimal? = some e ∧ e.IsSum (exacts ns) := by
  cases c with
  | none =>
    have hnil : exacts ns = [] := h
    rw [hnil]
    exact ⟨_, rfl, rfl, rfl⟩
  | some x => exact h.2

lemma scale_eq_zero_of_isCount {e : Decimal} (h : e.IsSum (exacts ns))
    (hcounts : ∀ n ∈ ns, n.IsCount) : e.scale.val = 0 := by
  rw [h.scale_eq]
  apply Decimal.largestScale_eq_zero
  intro d hd
  obtain ⟨n, hn, hnd⟩ := List.mem_filterMap.mp hd
  exact (hcounts n hn).scale_eq_zero hnd

/-! ### Averages -/

/-- What some sums and counts have to be like for an exact average at a number of places: the sums
and the counts add up in any order, counts are integers, and the total, if there is one, can be
divided. -/
structure HasAverage (places : Decimal.Scale) (sums counts : List Cell) : Prop where
  isAddend : ∀ v ∈ sums, v.IsAddend
  isCount : ∀ n ∈ counts, n.IsCount
  sums_addUp : Decimal.AddsUp (exacts sums)
  counts_addUp : Decimal.AddsUp (exacts counts)
  divides : exacts sums ≠ [] → Decimal.Divides (exacts sums) places

instance (places : Decimal.Scale) (sums counts : List Cell) :
    Decidable (HasAverage places sums counts) :=
  decidable_of_iff ((∀ v ∈ sums, v.IsAddend) ∧ (∀ n ∈ counts, n.IsCount) ∧
    Decimal.AddsUp (exacts sums) ∧ Decimal.AddsUp (exacts counts) ∧
    (exacts sums ≠ [] → Decimal.Divides (exacts sums) places))
    ⟨fun ⟨h₁, h₂, h₃, h₄, h₅⟩ => ⟨h₁, h₂, h₃, h₄, h₅⟩,
      fun ⟨h₁, h₂, h₃, h₄, h₅⟩ => ⟨h₁, h₂, h₃, h₄, h₅⟩⟩

/-- The average of some sums and counts at a number of places: NULL if there is nothing to add up
or nothing was counted, and else the quotient of the totals, rounded half away from zero. -/
inductive IsAverage (places : Decimal.Scale) (sums counts : List Cell) : Cell → Prop
  | noSum (h : ∀ v ∈ sums, v = .null) : IsAverage places sums counts .null
  | noCount (h : totalOf counts = 0) : IsAverage places sums counts .null
  | quotient {r : Signed 128} (hsum : ∃ v ∈ sums, v ≠ .null) (hcount : totalOf counts ≠ 0)
    (h : RoundsHalfAway (totalOf sums / totalOf counts * tenTo places.val) r.val) :
    IsAverage places sums counts (.decimal ⟨r, places⟩)

lemma IsAverage.perm (h : IsAverage places sums counts v) (hs : sums.Perm vs)
    (hc : counts.Perm ns) : IsAverage places vs ns v := by
  cases h with
  | noSum h => exact .noSum fun v hv => h v (hs.mem_iff.mpr hv)
  | noCount h => exact .noCount (totalOf_perm hc ▸ h)
  | quotient hsum hcount h =>
    rw [totalOf_perm hs, totalOf_perm hc] at h
    rw [totalOf_perm hc] at hcount
    obtain ⟨v, hv, hne⟩ := hsum
    exact .quotient ⟨v, hs.mem_iff.mp hv, hne⟩ hcount h

/-- Sums and counts have one average only. -/
lemma IsAverage.unique (h : IsAverage places sums counts v) (h' : IsAverage places sums counts n) :
    v = n := by
  cases h with
  | noSum h =>
    cases h' with
    | noSum | noCount => rfl
    | quotient hsum hcount _ =>
      obtain ⟨v, hv, hne⟩ := hsum
      exact absurd (h v hv) hne
  | noCount h =>
    cases h' with
    | noSum | noCount => rfl
    | quotient _ hcount _ => exact absurd h hcount
  | quotient hsum hcount h =>
    cases h' with
    | noSum h' =>
      obtain ⟨v, hv, hne⟩ := hsum
      exact absurd (h' v hv) hne
    | noCount h' => exact absurd h' hcount
    | quotient _ _ h' =>
      obtain rfl := Signed.ext (h.unique h')
      rfl

/-- The quotient of two totals is their average. -/
lemma HasAverage.isAverage (h : HasAverage places sums counts) (ht : IsTotal sums t)
    {e : Decimal} (he : n.toDecimal? = some e) (hcount : e.IsSum (exacts counts)) :
    IsAverage places sums counts (average (t.getD .null) n places) := by
  cases t with
  | none => exact .noSum fun v hv => (h.isAddend v hv).eq_null_of_exacts hv ht
  | some x =>
    obtain ⟨hne, d, hd, hsum⟩ := ht
    have hscale := scale_eq_zero_of_isCount hcount h.isCount
    have hvalue : totalOf counts = e.mantissa.val := by
      rw [totalOf, ← hcount.value_eq, Decimal.value, hscale, tenTo_zero, Nat.cast_one, div_one]
    simp only [Option.getD_some, average, isNull_of_toDecimal? hd, Bool.false_eq_true, if_false,
      isZeroCount_eq he hscale, decide_eq_true_eq]
    by_cases hzero : e.mantissa.val = 0
    · rw [if_pos hzero]
      exact .noCount (by rw [hvalue, hzero, Int.cast_zero])
    · obtain ⟨q, hq⟩ := hsum.exists_divRound? (h.divides hne) hzero
      have hquotient : exactAverage? x n places = some q := by
        rw [exactAverage?, hd, Option.bind_some, exactCount?, he, Option.bind_some, if_pos hscale,
          Option.bind_some, hq]
      obtain ⟨-, rfl, hround⟩ :=
        Decimal.of_divRound?_eq_some hq (hsum.quotientFits (h.divides hne) _)
      rw [if_neg hzero, hquotient]
      refine .quotient ?_ (by rw [hvalue]; exact_mod_cast hzero) ?_
      · by_contra hall
        push Not at hall
        exact hne (exacts_eq_nil hall)
      · rwa [hvalue, totalOf, ← hsum.value_eq]

/-- No row of sums and counts that add up is refused. -/
lemma exists_mergeAll {rows : List (Cell × Cell)} (places : Decimal.Scale)
    (hsums : ∀ v ∈ rows.map Prod.fst, v.IsAddend) (hcounts : ∀ n ∈ rows.map Prod.snd, n.IsAddend)
    (hsumsAdd : Decimal.AddsUp (exacts (rows.map Prod.fst)))
    (hcountsAdd : Decimal.AddsUp (exacts (rows.map Prod.snd))) :
    ∃ t c, mergeAll (.new .avg places) (rows.map fun p => [p.1, p.2]) = .ok (.avg t c places) ∧
      IsTotal (rows.map Prod.fst) t ∧ IsTotal (rows.map Prod.snd) c := by
  induction rows using List.reverseRecOn with
  | nil => exact ⟨none, none, rfl, isTotal_nil, isTotal_nil⟩
  | append_singleton rows p ih =>
    simp only [List.map_append, List.map_cons, List.map_nil, List.forall_mem_append,
      List.forall_mem_singleton] at hsums hcounts hsumsAdd hcountsAdd ⊢
    obtain ⟨t, c, hmerge, ht, hc⟩ := ih hsums.1 hcounts.1
      (hsumsAdd.sublist (exacts_sublist (List.sublist_append_left _ _)))
      (hcountsAdd.sublist (exacts_sublist (List.sublist_append_left _ _)))
    obtain ⟨t', ht', htotal⟩ := ht.exists_addTo hsums.2 hsumsAdd
    obtain ⟨c', hc', hctotal⟩ := hc.exists_addTo hcounts.2 hcountsAdd
    refine ⟨t', c', ?_, htotal, hctotal⟩
    rw [mergeAll_append_singleton hmerge, merged, merge, ht', hc']

lemma HasAverage.perm (h : HasAverage places sums counts) (hs : sums.Perm vs)
    (hc : counts.Perm ns) : HasAverage places vs ns where
  isAddend v hv := h.isAddend v (hs.mem_iff.mpr hv)
  isCount n hn := h.isCount n (hc.mem_iff.mpr hn)
  sums_addUp := h.sums_addUp.perm (hs.filterMap _)
  counts_addUp := h.counts_addUp.perm (hc.filterMap _)
  divides hne := by
    have hexacts : (exacts sums).Perm (exacts vs) := hs.filterMap _
    rw [Decimal.Divides, ← Decimal.largestScale_perm hexacts, ← Decimal.totalAt_perm hexacts]
    exact h.divides fun hnil => hne (List.perm_nil.mp (hnil ▸ hexacts.symm))

/-- Sums and counts that add up have one average, whatever their order: no row of them is refused,
and the result is the quotient of the totals, rounded once. -/
theorem exists_isAverage_of_perm (places : Decimal.Scale) (rows : List (Cell × Cell))
    (h : HasAverage places (rows.map Prod.fst) (rows.map Prod.snd)) :
    ∃ c, IsAverage places (rows.map Prod.fst) (rows.map Prod.snd) c ∧
      ∀ rows' : List (Cell × Cell), rows'.Perm rows →
        ∃ u, mergeAll (.new .avg places) (rows'.map fun p => [p.1, p.2]) = .ok u ∧
          u.result = c := by
  have hrun {rows' : List (Cell × Cell)} (hperm : rows'.Perm rows) :
      ∃ u, mergeAll (.new .avg places) (rows'.map fun p => [p.1, p.2]) = .ok u ∧
        IsAverage places (rows.map Prod.fst) (rows.map Prod.snd) u.result := by
    have h' := h.perm (hperm.map Prod.fst).symm (hperm.map Prod.snd).symm
    obtain ⟨t, c, hmerge, ht, hc⟩ := exists_mergeAll places h'.isAddend
      (fun n hn => (h'.isCount n hn).isAddend) h'.sums_addUp h'.counts_addUp
    obtain ⟨e, he, hcount⟩ := hc.isSum_getD_zeroCount
    exact ⟨_, hmerge, (h'.isAverage ht he hcount).perm (hperm.map _) (hperm.map _)⟩
  obtain ⟨u, -, hu⟩ := hrun (List.Perm.refl rows)
  refine ⟨u.result, hu, fun rows' hperm => ?_⟩
  obtain ⟨u', hmerge, hu'⟩ := hrun hperm
  exact ⟨u', hmerge, hu'.unique hu⟩

/-- The sums `-10`, NULL and `-0.05` of `3`, no and `5` rows: their average `-1.25625` ends in a
half at four places. -/
def halfwayRows : List (Cell × Cell) :=
  [(.int64 ⟨-10, by decide⟩, .int64 ⟨3, by decide⟩), (.null, zeroCount),
    (.decimal ⟨⟨-5, by decide⟩, 2⟩, .int32 ⟨5, by decide⟩)]

theorem exists_isAverage_of_halfwayRows :
    HasAverage 4 (halfwayRows.map Prod.fst) (halfwayRows.map Prod.snd) ∧
      ∃ c, IsAverage 4 (halfwayRows.map Prod.fst) (halfwayRows.map Prod.snd) c ∧
        ∀ rows' : List (Cell × Cell), rows'.Perm halfwayRows →
          ∃ u, mergeAll (.new .avg 4) (rows'.map fun p => [p.1, p.2]) = .ok u ∧ u.result = c :=
  have h : HasAverage 4 (halfwayRows.map Prod.fst) (halfwayRows.map Prod.snd) := by decide
  ⟨h, exists_isAverage_of_perm 4 halfwayRows h⟩

end Accumulator

end Confluence
