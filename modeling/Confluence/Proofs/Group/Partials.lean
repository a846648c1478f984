import Confluence.Proofs.Group.Average

/-!
# Partial results of partial results

What an aggregate is fed may itself be the result of the same aggregate. If a list of cells is cut
into parts that are fed one by one, then the results of the parts can be fed in turn as soon as the
whole list can, and they come to what the whole list comes to: an extremum to the same cell, a count
or a sum to the same value.
-/

namespace Confluence

open Cell Accumulator

variable {vs ws xs : List Cell} {parts : List (List Cell)} {v w x y : Cell} {t : Option Cell}
  {wanted : Ordering} {f : AggregateFunction} {u u' : Accumulator} {places : Decimal.Scale}

/-! ### Extrema -/

namespace Cell

/-- Replace an extremum by a cell that lies beyond it. -/
def pick (wanted : Ordering) (extremum : Option Cell) (v : Cell) : Option Cell :=
  if v.isNull then extremum
  else
    match extremum with
    | none => some v
    | some x => some (if CellPlace.compare v.place x.place = wanted then v else x)

lemma pick_of_isNull (h : v.isNull = true) : pick wanted t v = t := if_pos h

lemma pick_none (h : v.isNull = false) : pick wanted none v = some v :=
  if_neg (Bool.not_eq_true _ ▸ h)

lemma pick_some (h : v.isNull = false) : pick wanted (some x) v =
    some (if CellPlace.compare v.place x.place = wanted then v else x) :=
  if_neg (Bool.not_eq_true _ ▸ h)

/-- Of the cells that lie farthest on the wanted side, the first. -/
def extremum? (wanted : Ordering) (vs : List Cell) : Option Cell := vs.foldl (pick wanted) none

lemma extremum?_append_singleton (wanted : Ordering) (vs : List Cell) (v : Cell) :
    extremum? wanted (vs ++ [v]) = pick wanted (extremum? wanted vs) v := by
  rw [extremum?, List.foldl_append]
  rfl

lemma of_extremum?_eq_some (h : extremum? wanted vs = some x) : x ∈ vs ∧ x.isNull = false := by
  induction vs using List.reverseRecOn generalizing x with
  | nil => cases h
  | append_singleton vs v ih =>
    have hearlier {y : Cell} (hy : extremum? wanted vs = some y) :
        y ∈ vs ++ [v] ∧ y.isNull = false :=
      ⟨List.mem_append_left _ (ih hy).1, (ih hy).2⟩
    rw [extremum?_append_singleton] at h
    cases hv : v.isNull with
    | true =>
      rw [pick_of_isNull hv] at h
      exact hearlier h
    | false =>
      have hlast : v ∈ vs ++ [v] ∧ v.isNull = false :=
        ⟨List.mem_append_right _ (List.mem_singleton_self v), hv⟩
      cases hvs : extremum? wanted vs with
      | none =>
        rw [hvs, pick_none hv] at h
        cases h
        exact hlast
      | some y =>
        rw [hvs, pick_some hv, Option.some.injEq] at h
        subst h
        split
        · exact hlast
        · exact hearlier hvs

lemma mem_of_extremum? (h : ((extremum? wanted vs).getD .null).isNull = false) :
    (extremum? wanted vs).getD .null ∈ vs := by
  cases hvs : extremum? wanted vs with
  | none =>
    rw [hvs] at h
    cases h
  | some x => exact (of_extremum?_eq_some hvs).1

lemma isNull_of_extremum?_eq_none (h : extremum? wanted vs = none) :
    ∀ v ∈ vs, v.isNull = true := by
  induction vs using List.reverseRecOn with
  | nil => exact List.forall_mem_nil _
  | append_singleton vs v ih =>
    rw [extremum?_append_singleton] at h
    cases hv : v.isNull with
    | true =>
      rw [pick_of_isNull hv] at h
      exact List.forall_mem_append.mpr ⟨ih h, List.forall_mem_singleton.mpr hv⟩
    | false =>
      cases hvs : extremum? wanted vs with
      | none =>
        rw [hvs, pick_none hv] at h
        cases h
      | some x =>
        rw [hvs, pick_some hv] at h
        cases h

/-- A place that another one does not lie beyond is equal to it or lies beyond it. -/
lemma compare_of_not_beyond {p q : CellPlace} (hw : wanted ≠ .eq)
    (h : CellPlace.compare q p ≠ wanted) :
    CellPlace.compare p q = .eq ∨ CellPlace.compare p q = wanted := by
  have hswap : CellPlace.compare p q = (CellPlace.compare q p).swap := Std.OrientedCmp.eq_swap
  rw [hswap]
  cases hc : CellPlace.compare q p <;> cases wanted <;> simp_all

/-- A place that another one lies beyond is not equal to it and does not lie beyond it. -/
lemma compare_of_beyond {p q : CellPlace} (hw : wanted ≠ .eq)
    (h : CellPlace.compare q p = wanted) :
    ¬ (CellPlace.compare p q = .eq ∨ CellPlace.compare p q = wanted) := by
  have hswap : CellPlace.compare p q = (CellPlace.compare q p).swap := Std.OrientedCmp.eq_swap
  rw [hswap, h]
  cases wanted with
  | eq => exact absurd rfl hw
  | lt => decide
  | gt => decide

/-- What lies beyond a place lies beyond every place that does not lie beyond it. -/
lemma compare_of_ne {p q r : CellPlace} (hw : wanted ≠ .eq) (hpq : CellPlace.compare p q ≠ wanted)
    (hrq : CellPlace.compare r q = wanted) : CellPlace.compare r p = wanted := by
  rcases compare_of_not_beyond hw hpq with heq | hqp
  · rw [← Std.TransCmp.congr_right heq]
    exact hrq
  · exact compare_trans hrq hqp

/-- Picking is associative. -/
lemma pick_pick (hw : wanted ≠ .eq) (t : Option Cell) (hy : y.isNull = false) (v : Cell) :
    pick wanted (pick wanted t y) v = pick wanted t ((pick wanted (some y) v).getD .null) := by
  cases hv : v.isNull with
  | true => rw [pick_of_isNull hv, pick_of_isNull hv, Option.getD_some]
  | false =>
    cases t with
    | none =>
      rw [pick_none hy, pick_some hv, Option.getD_some]
      split
      · rw [pick_none hv]
      · rw [pick_none hy]
    | some x =>
      rw [pick_some hy, pick_some hv, pick_some hv, Option.getD_some]
      by_cases hvy : CellPlace.compare v.place y.place = wanted
      · rw [if_pos hvy, pick_some hv]
        by_cases hyx : CellPlace.compare y.place x.place = wanted
        · rw [if_pos hyx, if_pos hvy, if_pos (compare_trans hvy hyx)]
        · rw [if_neg hyx]
      · rw [if_neg hvy, pick_some hy]
        by_cases hyx : CellPlace.compare y.place x.place = wanted
        · rw [if_pos hyx, if_neg hvy]
        · rw [if_neg hyx, if_neg fun hvx => hvy (compare_of_ne hw hyx hvx)]

/-- Picking out of some cells in turn is picking their extremum. -/
lemma foldl_pick (hw : wanted ≠ .eq) (t : Option Cell) (vs : List Cell) :
    vs.foldl (pick wanted) t = pick wanted t ((extremum? wanted vs).getD .null) := by
  induction vs using List.reverseRecOn with
  | nil => rfl
  | append_singleton vs v ih =>
    rw [List.foldl_append, ih, extremum?_append_singleton, List.foldl_cons, List.foldl_nil]
    cases hvs : extremum? wanted vs with
    | none =>
      have hnull : pick wanted t .null = t := pick_of_isNull rfl
      rw [Option.getD_none, hnull]
      cases hv : v.isNull with
      | true => rw [pick_of_isNull hv, pick_of_isNull hv, Option.getD_none, hnull]
      | false => rw [pick_none hv, Option.getD_some]
    | some y => exact pick_pick hw t (of_extremum?_eq_some hvs).2 v

/-- The extremum of the extrema of some parts is the extremum of all of them. -/
lemma extremum?_flatten (hw : wanted ≠ .eq)
    (h : List.Forall₂ (fun vs x => (extremum? wanted vs).getD .null = x) parts xs) :
    extremum? wanted parts.flatten = extremum? wanted xs := by
  have hfold (t : Option Cell) :
      parts.flatten.foldl (pick wanted) t = xs.foldl (pick wanted) t := by
    induction h generalizing t with
    | nil => rfl
    | @cons vs x parts xs hx _ ih =>
      rw [List.flatten_cons, List.foldl_append, List.foldl_cons, foldl_pick hw t vs, hx, ih]
  exact hfold none

/-! ### Cells that can be fed -/

/-- Whether cells can be added up: they are NULL or exact numbers, and no order of adding them
overflows. -/
structure AddUp (vs : List Cell) : Prop where
  isAddend : ∀ v ∈ vs, v.IsAddend
  addsUp : Decimal.AddsUp (exacts vs)

/-- Whether cells can be ordered by value: none is a float, and those not NULL are of one family. -/
structure OneFamily (vs : List Cell) : Prop where
  type?_ne : ∀ v ∈ vs, v.type? ≠ some .float64
  familyRank_eq : ∀ v ∈ vs, ∀ w ∈ vs, v.isNull = false → w.isNull = false →
    v.familyRank = w.familyRank

lemma AddUp.sublist (h : AddUp ws) (hsub : vs.Sublist ws) : AddUp vs where
  isAddend v hv := h.isAddend v (hsub.mem hv)
  addsUp := h.addsUp.sublist (exacts_sublist hsub)

lemma OneFamily.mono (h : OneFamily ws) (hsub : ∀ v ∈ vs, v.isNull = false → v ∈ ws) :
    OneFamily vs where
  type?_ne v hv := by
    cases hn : v.isNull with
    | true => simp [isNull_eq_true_iff.mp hn, type?]
    | false => exact h.type?_ne v (hsub v hv hn)
  familyRank_eq v hv w hw hvn hwn :=
    h.familyRank_eq v (hsub v hv hvn) w (hsub w hw hwn) hvn hwn

/-- Over cells of one family an extremum is kept by place. -/
lemma keepExtremum_extremum? (wanted : Ordering) (h : OneFamily (vs ++ [v])) :
    keepExtremum wanted (extremum? wanted vs) v = (.ok (), extremum? wanted (vs ++ [v])) := by
  rw [extremum?_append_singleton, keepExtremum.eq_def]
  cases hv : v.isNull with
  | true => rw [if_pos rfl, pick_of_isNull hv]
  | false =>
    rw [if_neg Bool.false_ne_true]
    cases hvs : extremum? wanted vs with
    | none => rw [pick_none hv]
    | some x =>
      obtain ⟨hx, hxn⟩ := of_extremum?_eq_some hvs
      have hv' : v ∈ vs ++ [v] := List.mem_append_right _ (List.mem_singleton_self v)
      have hx' : x ∈ vs ++ [v] := List.mem_append_left _ hx
      have hcompare := compare?_eq_some (h.type?_ne v hv') (h.type?_ne x hx') hv
        (h.familyRank_eq v hv' x hx' hv hxn)
      simp only [hcompare, pick_some hv]

/-- A cell that was compared to an extremum is of its family. -/
lemma OneFamily.append_singleton (h : OneFamily vs) (hv : v.type? ≠ some .float64)
    (hkeep : keepExtremum wanted (extremum? wanted vs) v = (.ok (), t)) :
    OneFamily (vs ++ [v]) := by
  have htype : ∀ w ∈ vs ++ [v], w.type? ≠ some .float64 :=
    List.forall_mem_append.mpr ⟨h.type?_ne, List.forall_mem_singleton.mpr hv⟩
  cases hvn : v.isNull with
  | true =>
    refine h.mono fun w hw hwn => ?_
    rcases List.mem_append.mp hw with hw | hw
    · exact hw
    · rw [List.mem_singleton.mp hw, hvn] at hwn
      cases hwn
  | false =>
    have hrank : ∀ w ∈ vs, w.isNull = false → w.familyRank = v.familyRank := by
      intro w hw hwn
      cases hvs : extremum? wanted vs with
      | none =>
        rw [isNull_of_extremum?_eq_none hvs w hw] at hwn
        cases hwn
      | some x =>
        obtain ⟨hx, hxn⟩ := of_extremum?_eq_some hvs
        rw [h.familyRank_eq w hw x hx hwn hxn]
        by_contra hne
        rw [keepExtremum.eq_def, hvs, hvn] at hkeep
        simp [compare?_eq_none_of_familyRank_ne (Ne.symm hne)] at hkeep
    refine ⟨htype, ?_⟩
    have hself : ∀ w ∈ vs ++ [v], w.isNull = false → w.familyRank = v.familyRank :=
      List.forall_mem_append.mpr ⟨hrank, List.forall_mem_singleton.mpr fun _ => rfl⟩
    intro w hw w' hw' hwn hwn'
    rw [hself w hw hwn, hself w' hw' hwn']

end Cell

/-! ### Accumulators of one value -/

namespace Accumulator

/-- What an accumulator of one value holds after it was fed some cells. -/
inductive Holds (vs : List Cell) : Accumulator → Prop
  | count {t : Option Cell} (h : IsTotal vs t) : Holds vs (.count t)
  | sum {t : Option Cell} (h : IsTotal vs t) : Holds vs (.sum t)
  | max : Holds vs (.max (extremum? .gt vs))
  | min : Holds vs (.min (extremum? .lt vs))

/-- Whether an aggregate of one value can be fed some cells. -/
inductive Combinable (vs : List Cell) : AggregateFunction → Prop
  | count (h : AddUp vs) : Combinable vs .count
  | sum (h : AddUp vs) : Combinable vs .sum
  | max (h : OneFamily vs) : Combinable vs .max
  | min (h : OneFamily vs) : Combinable vs .min

/-- The result of an aggregate of one value that was fed some cells. -/
inductive Summarizes (vs : List Cell) : AggregateFunction → Cell → Prop
  | count {x : Cell} {d : Decimal} (hx : x.toDecimal? = some d) (hd : d.IsSum (exacts vs)) :
    Summarizes vs .count x
  | sum {t : Option Cell} (h : IsTotal vs t) : Summarizes vs .sum (t.getD .null)
  | max : Summarizes vs .max ((extremum? .gt vs).getD .null)
  | min : Summarizes vs .min ((extremum? .lt vs).getD .null)

lemma holds_new (hf : f ≠ .avg) : Holds [] (.new f places) := by
  cases f with
  | count => exact .count isTotal_nil
  | sum => exact .sum isTotal_nil
  | max => exact .max
  | min => exact .min
  | avg => exact absurd rfl hf

lemma Holds.summarizes (h : Holds vs u) : Summarizes vs u.function u.result := by
  cases h with
  | count ht =>
    obtain ⟨d, hx, hd⟩ := ht.isSum_getD_zeroCount
    exact .count hx hd
  | sum ht => exact .sum ht
  | max => exact .max
  | min => exact .min

/-- A cell is folded in as long as it can be fed together with the cells before it. -/
lemma Holds.exists_merged (h : Holds vs u) (hc : Combinable (vs ++ [v]) u.function) :
    ∃ u', u.merged [v] = .ok u' ∧ u'.function = u.function ∧ Holds (vs ++ [v]) u' := by
  have hv : v ∈ vs ++ [v] := List.mem_append_right _ (List.mem_singleton_self v)
  cases h with
  | count ht =>
    cases hc with
    | count hadd =>
      obtain ⟨t', hstep, ht'⟩ := ht.exists_addTo (hadd.isAddend v hv) hadd.addsUp
      exact ⟨.count t', by rw [merged, merge, hstep], rfl, .count ht'⟩
  | sum ht =>
    cases hc with
    | sum hadd =>
      obtain ⟨t', hstep, ht'⟩ := ht.exists_addTo (hadd.isAddend v hv) hadd.addsUp
      exact ⟨.sum t', by rw [merged, merge, hstep], rfl, .sum ht'⟩
  | max =>
    cases hc with
    | max hone =>
      have hstep := keepExtremum_extremum? .gt hone
      exact ⟨.max (extremum? .gt (vs ++ [v])), by rw [merged, merge, hstep], rfl, .max⟩
  | min =>
    cases hc with
    | min hone =>
      have hstep := keepExtremum_extremum? .lt hone
      exact ⟨.min (extremum? .lt (vs ++ [v])), by rw [merged, merge, hstep], rfl, .min⟩

/-- What was added to a total is an addend. -/
lemma isAddend_of_addTo {t t' : Option Cell} (hv : v.type? ≠ some .float64)
    (hstep : addTo t v = (.ok (), t')) : v.IsAddend := by
  rw [addTo.eq_def] at hstep
  by_cases hnull : v.isNull = true
  · exact Or.inl (isNull_eq_true_iff.mp hnull)
  · rw [if_neg hnull] at hstep
    by_cases hnumeric : v.family? = some .numeric
    · obtain ⟨d, hd⟩ := exists_toDecimal? hv hnumeric
      exact Or.inr (Option.isSome_iff_exists.mpr ⟨d, hd⟩)
    · rw [if_pos hnumeric] at hstep
      cases hstep

/-- Cells that were folded in can be fed together. -/
lemma Holds.combinable (h : Holds vs u) (hc : Combinable vs u.function)
    (hv : v.type? ≠ some .float64)
    (hadds : u.function = .sum ∨ u.function = .count → Decimal.AddsUp (exacts (vs ++ [v])))
    (hstep : u.merged [v] = .ok u') : Combinable (vs ++ [v]) u.function := by
  have htotal {t t' : Option Cell} (hup : AddUp vs)
      (hall : Decimal.AddsUp (exacts (vs ++ [v]))) (hstep : addTo t v = (.ok (), t')) :
      AddUp (vs ++ [v]) :=
    ⟨List.forall_mem_append.mpr
      ⟨hup.isAddend, List.forall_mem_singleton.mpr (isAddend_of_addTo hv hstep)⟩, hall⟩
  cases h with
  | @count t ht =>
    cases hc with
    | count hup =>
      rcases hs : addTo t v with ⟨e | _, t'⟩
      · simp [merged, merge, hs] at hstep
      · exact .count (htotal hup (hadds (Or.inr rfl)) hs)
  | @sum t ht =>
    cases hc with
    | sum hup =>
      rcases hs : addTo t v with ⟨e | _, t'⟩
      · simp [merged, merge, hs] at hstep
      · exact .sum (htotal hup (hadds (Or.inl rfl)) hs)
  | max =>
    cases hc with
    | max hone =>
      rcases hs : keepExtremum .gt (extremum? .gt vs) v with ⟨e | _, t'⟩
      · simp [merged, merge, hs] at hstep
      · exact .max (hone.append_singleton hv hs)
  | min =>
    cases hc with
    | min hone =>
      rcases hs : keepExtremum .lt (extremum? .lt vs) v with ⟨e | _, t'⟩
      · simp [merged, merge, hs] at hstep
      · exact .min (hone.append_singleton hv hs)

lemma combinable_nil (hf : f ≠ .avg) : Combinable [] f := by
  have hadd : AddUp [] := ⟨List.forall_mem_nil _, by decide⟩
  have hone : OneFamily [] := ⟨List.forall_mem_nil _, List.forall_mem_nil _⟩
  cases f with
  | count => exact .count hadd
  | sum => exact .sum hadd
  | max => exact .max hone
  | min => exact .min hone
  | avg => exact absurd rfl hf

lemma Combinable.ne_avg (h : Combinable vs f) : f ≠ .avg := by
  rintro rfl
  cases h

lemma Combinable.sublist (h : Combinable ws f) (hsub : vs.Sublist ws) : Combinable vs f := by
  cases h with
  | count h => exact .count (h.sublist hsub)
  | sum h => exact .sum (h.sublist hsub)
  | max h => exact .max (h.mono fun v hv _ => hsub.mem hv)
  | min h => exact .min (h.mono fun v hv _ => hsub.mem hv)

/-- Cells that can be fed together are fed, and what comes out is their result. -/
lemma Combinable.exists_mergeAll (places : Decimal.Scale) (h : Combinable vs f) :
    ∃ u, mergeAll (.new f places) (vs.map fun v => [v]) = .ok u ∧ u.function = f ∧ Holds vs u := by
  induction vs using List.reverseRecOn with
  | nil => exact ⟨_, rfl, by cases f <;> rfl, holds_new h.ne_avg⟩
  | append_singleton vs v ih =>
    obtain ⟨u, hmerge, rfl, hu⟩ := ih (h.sublist (List.sublist_append_left vs [v]))
    obtain ⟨u', hstep, hfunction, hu'⟩ := hu.exists_merged h
    refine ⟨u', ?_, hfunction, hu'⟩
    rw [List.map_append, List.map_singleton, mergeAll_append_singleton hmerge, hstep]

/-- Cells that were fed one after the other can be fed together. -/
lemma combinable_of_mergeAll (hf : f ≠ .avg) (hexact : ∀ v ∈ vs, v.type? ≠ some .float64)
    (hadds : f = .sum ∨ f = .count → Decimal.AddsUp (exacts vs))
    (h : mergeAll (.new f places) (vs.map fun v => [v]) = .ok u) : Combinable vs f := by
  induction vs using List.reverseRecOn generalizing u with
  | nil => exact combinable_nil hf
  | append_singleton vs v ih =>
    rw [List.forall_mem_append, List.forall_mem_singleton] at hexact
    rw [List.map_append, List.map_singleton] at h
    obtain ⟨u₁, hvs, hstep⟩ := exists_merged_of_mergeAll h
    have hc := ih hexact.1
      (fun hf => (hadds hf).sublist (exacts_sublist (List.sublist_append_left vs [v]))) hvs
    obtain ⟨u₂, hmerge, rfl, hu⟩ := hc.exists_mergeAll places
    obtain rfl : u₁ = u₂ := Except.ok.inj (hvs.symm.trans hmerge)
    exact hu.combinable hc hexact.2 hadds hstep

/-! ### Results of parts -/

/-- The results of parts are sums of the parts, as far as they are not NULL. -/
lemma exists_sums (hf : f = .sum ∨ f = .count)
    (hparts : List.Forall₂ (fun vs x => Summarizes vs f x) parts xs) :
    (∀ x ∈ xs, x.IsAddend) ∧ ∃ dss : List (List Decimal), dss.flatten = exacts parts.flatten ∧
      List.Forall₂ Decimal.IsSum dss (exacts xs) := by
  induction hparts with
  | nil => exact ⟨List.forall_mem_nil _, [], rfl, .nil⟩
  | @cons vs x parts xs hx _ ih =>
    obtain ⟨haddend, dss, hflatten, hsums⟩ := ih
    have hexacts : exacts (vs ++ parts.flatten) = exacts vs ++ exacts parts.flatten :=
      List.filterMap_append
    have hsome {d : Decimal} (hd : x.toDecimal? = some d) (hsum : d.IsSum (exacts vs)) :
        x.IsAddend ∧ ∃ dss : List (List Decimal),
          dss.flatten = exacts (vs ++ parts.flatten) ∧
            List.Forall₂ Decimal.IsSum dss (exacts (x :: xs)) := by
      refine ⟨Or.inr (Option.isSome_iff_exists.mpr ⟨d, hd⟩), exacts vs :: dss, ?_, ?_⟩
      · rw [List.flatten_cons, hflatten, hexacts]
      · have hx : exacts (x :: xs) = d :: exacts xs := List.filterMap_cons_some hd
        rw [hx]
        exact .cons hsum hsums
    rw [List.forall_mem_cons, List.flatten_cons, and_right_comm]
    refine ⟨?_, haddend⟩
    cases hx with
    | count hd hsum => exact hsome hd hsum
    | @sum t ht =>
      cases t with
      | none =>
        have hnil : exacts vs = [] := ht
        exact ⟨Or.inl rfl, dss, by rw [hexacts, hnil, List.nil_append, hflatten], hsums⟩
      | some x =>
        obtain ⟨-, d, hd, hsum⟩ := ht
        exact hsome hd hsum
    | max => simp at hf
    | min => simp at hf

/-- If parts can be fed together, then so can their results. -/
lemma Combinable.of_parts (h : Combinable parts.flatten f)
    (hparts : List.Forall₂ (fun vs x => Summarizes vs f x) parts xs) : Combinable xs f := by
  have hadd (hf : f = .sum ∨ f = .count) (hup : AddUp parts.flatten) : AddUp xs := by
    obtain ⟨haddend, dss, hflatten, hsums⟩ := exists_sums hf hparts
    refine ⟨haddend, Decimal.AddsUp.of_sums ?_ hsums⟩
    rw [hflatten]
    exact hup.addsUp
  have hone {wanted : Ordering} (hone : OneFamily parts.flatten)
      (hall : ∀ {vs x}, Summarizes vs f x → (extremum? wanted vs).getD .null = x) :
      OneFamily xs := by
    refine hone.mono fun x hx hn => ?_
    obtain ⟨vs, hvs, hsum⟩ := exists_mem_of_forall₂ hparts hx
    obtain rfl := hall hsum
    exact List.mem_flatten.mpr ⟨vs, hvs, mem_of_extremum? hn⟩
  cases h with
  | count hup => exact .count (hadd (Or.inr rfl) hup)
  | sum hup => exact .sum (hadd (Or.inl rfl) hup)
  | max hall => exact .max (hone hall fun h => by cases h; rfl)
  | min hall => exact .min (hone hall fun h => by cases h; rfl)

/-- Parts without an exact value come to no value. -/
lemma exacts_eq_nil_of_parts (hparts : List.Forall₂ (fun vs x => Summarizes vs .sum x) parts xs)
    (hnil : exacts parts.flatten = []) : exacts xs = [] := by
  induction hparts with
  | nil => rfl
  | @cons vs x parts xs hx _ ih =>
    have hexacts : exacts (vs ++ parts.flatten) = exacts vs ++ exacts parts.flatten :=
      List.filterMap_append
    rw [List.flatten_cons, hexacts, List.append_eq_nil_iff] at hnil
    cases hx with
    | @sum t ht =>
      cases t with
      | none => exact ih hnil.2
      | some x => exact absurd hnil.1 ht.1

/-- The result of the results of some parts is the result of all of them. -/
lemma Summarizes.of_parts (h : Summarizes xs f y)
    (hparts : List.Forall₂ (fun vs x => Summarizes vs f x) parts xs) :
    Summarizes parts.flatten f y := by
  cases h with
  | count hy hsum =>
    obtain ⟨-, dss, hflatten, hsums⟩ := exists_sums (Or.inr rfl) hparts
    have hwhole := hsum.flatten hsums
    rw [hflatten] at hwhole
    exact .count hy hwhole
  | @sum t ht =>
    obtain ⟨-, dss, hflatten, hsums⟩ := exists_sums (Or.inl rfl) hparts
    refine .sum ?_
    cases t with
    | none =>
      have hnil : exacts xs = [] := ht
      rw [hnil, List.forall₂_nil_right_iff] at hsums
      subst hsums
      exact hflatten.symm
    | some y =>
      obtain ⟨hne, d, hd, hsum⟩ := ht
      have hwhole := hsum.flatten hsums
      rw [hflatten] at hwhole
      exact ⟨mt (exacts_eq_nil_of_parts hparts) hne, d, hd, hwhole⟩
  | max =>
    have hextrema : List.Forall₂ (fun vs x => (extremum? .gt vs).getD .null = x) parts xs :=
      hparts.imp fun vs x h => by
        cases h
        rfl
    rw [← extremum?_flatten (by decide) hextrema]
    exact .max
  | min =>
    have hextrema : List.Forall₂ (fun vs x => (extremum? .lt vs).getD .null = x) parts xs :=
      hparts.imp fun vs x h => by
        cases h
        rfl
    rw [← extremum?_flatten (by decide) hextrema]
    exact .min

/-! ### One result -/

/-- Two counts or sums of the same cells have the same value. -/
lemma Summarizes.agrees (h : Summarizes vs f x) (h' : Summarizes vs f y)
    (hf : f = .sum ∨ f = .count) : x.Agrees y := by
  cases h with
  | @count _ d hx hd =>
    cases h' with
    | @count _ e hy he =>
      rw [he.eq_of_perm hd (List.Perm.refl _)] at hy
      exact agrees_of_place_eq (type?_ne_of_toDecimal? hx) (type?_ne_of_toDecimal? hy)
        ((place_of_toDecimal? hx).trans (place_of_toDecimal? hy).symm)
  | sum ht =>
    cases h' with
    | sum ht' => exact ht.getD_agrees ht' (List.Perm.refl vs) (by decide)
  | max => simp at hf
  | min => simp at hf

/-- Two extrema of the same cells are the same cell. -/
lemma Summarizes.eq (h : Summarizes vs f x) (h' : Summarizes vs f y)
    (hf : f ≠ .sum ∧ f ≠ .count) : x = y := by
  cases h with
  | count => exact absurd rfl hf.2
  | sum => exact absurd rfl hf.1
  | max =>
    cases h'
    rfl
  | min =>
    cases h'
    rfl

/-- The quotient of a sum and a count is the average of what they summarize. -/
lemma HasAverage.isAverage_of_summaries {sums counts : List Cell}
    (h : HasAverage places sums counts) (hx : Summarizes sums .sum x)
    (hy : Summarizes counts .count y) : IsAverage places sums counts (average x y places) := by
  cases hx with
  | sum ht =>
    cases hy with
    | count hy hd => exact h.isAverage ht hy hd

end Accumulator

end Confluence
