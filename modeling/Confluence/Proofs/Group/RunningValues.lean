import Confluence.Group.Accumulator
import Confluence.Proofs.Cell.Sum
import Confluence.Proofs.Number.Zero

/-!
# Running values do not depend on the order

What an accumulator holds is determined by the cells that it was fed, whatever their order: a total
as long as the cells add up, an extremum up to its representation, and an average as long as its
sum can be divided.
-/

namespace Confluence

/-! ### Exact cells -/

namespace Cell

variable {v : Cell} {vs : List Cell} {d : Decimal}

/-- The exact values among some cells. -/
def exacts (vs : List Cell) : List Decimal := vs.filterMap toDecimal?

lemma exacts_append_singleton_of_isNull (vs : List Cell) (h : v.isNull = true) :
    exacts (vs ++ [v]) = exacts vs := by
  rw [isNull_eq_true_iff.mp h, exacts, List.filterMap_append]
  exact List.append_nil _

lemma exacts_append_singleton (vs : List Cell) (h : v.toDecimal? = some d) :
    exacts (vs ++ [v]) = exacts vs ++ [d] := by
  rw [exacts, List.filterMap_append, List.filterMap_cons_some h]
  rfl

lemma exacts_sublist {vs ws : List Cell} (h : vs.Sublist ws) : (exacts vs).Sublist (exacts ws) :=
  h.filterMap _

lemma exacts_ne_nil (hv : v ∈ vs) (h : v.toDecimal? = some d) : exacts vs ≠ [] :=
  List.ne_nil_of_mem (List.mem_filterMap.mpr ⟨v, hv, h⟩)

lemma exacts_eq_nil (h : ∀ v ∈ vs, v = .null) : exacts vs = [] := by
  rw [exacts, List.filterMap_eq_nil_iff]
  intro v hv
  rw [h v hv]
  rfl

end Cell

namespace Accumulator

open Cell

variable {vs ws : List Cell} {v x y : Cell} {t t' : Option Cell}

/-! ### Totals -/

/-- A total is the exact sum of the cells that are not NULL. -/
def IsTotal (vs : List Cell) : Option Cell → Prop
  | none => exacts vs = []
  | some x => exacts vs ≠ [] ∧ ∃ d, x.toDecimal? = some d ∧ d.IsSum (exacts vs)

lemma isTotal_nil : IsTotal [] none := rfl

/-- Adding a value to a total adds it exactly. -/
lemma IsTotal.addTo (h : IsTotal vs t) (hv : v.type? ≠ some .float64)
    (hb : Decimal.AddsUp (exacts (vs ++ [v]))) (hadd : addTo t v = (.ok (), t')) :
    IsTotal (vs ++ [v]) t' := by
  rw [Accumulator.addTo.eq_def] at hadd
  split at hadd
  next hnull =>
    cases hadd
    rw [IsTotal.eq_def, exacts_append_singleton_of_isNull vs hnull]
    exact h
  · split at hadd
    · cases hadd
    next hnumeric =>
      obtain ⟨e, he⟩ := exists_toDecimal? hv (not_not.mp hnumeric)
      rw [exacts_append_singleton vs he] at hb
      cases t with
      | none =>
        cases hadd
        have hnil : exacts vs = [] := h
        refine ⟨?_, e, he, ?_⟩
        · rw [exacts_append_singleton vs he]
          exact List.concat_ne_nil _ _
        · rw [exacts_append_singleton vs he, hnil]
          exact Decimal.isSum_singleton e
      | some x =>
        obtain ⟨hne, d, hd, hsum⟩ := h
        obtain ⟨c, hc, hsum'⟩ := hsum.exists_add? hb
        obtain ⟨y, hy, hyc⟩ := Cell.exists_add? hd he hc
        simp only [hy] at hadd
        cases hadd
        refine ⟨?_, c, hyc, ?_⟩
        · rw [exacts_append_singleton vs he]
          exact List.concat_ne_nil _ _
        · rwa [exacts_append_singleton vs he]

/-- Totals of the same cells in any order are both missing, or have the same exact value. -/
lemma IsTotal.perm (h : IsTotal vs t) (h' : IsTotal ws t') (hperm : vs.Perm ws) :
    (t = none ∧ t' = none) ∨ ∃ x y d, t = some x ∧ t' = some y ∧ x.toDecimal? = some d ∧
      y.toDecimal? = some d ∧ d.IsSum (exacts vs) := by
  have hexacts : (exacts vs).Perm (exacts ws) := hperm.filterMap _
  cases t with
  | none =>
    cases t' with
    | none => exact Or.inl ⟨rfl, rfl⟩
    | some y =>
      have hnil : exacts vs = [] := h
      rw [hnil, List.nil_perm] at hexacts
      exact absurd hexacts h'.1
  | some x =>
    cases t' with
    | none =>
      have hnil : exacts ws = [] := h'
      rw [hnil, List.perm_nil] at hexacts
      exact absurd hexacts h.1
    | some y =>
      obtain ⟨-, d, hd, hsum⟩ := h
      obtain ⟨-, e, he, hsum'⟩ := h'
      rw [← hsum.eq_of_perm hsum' hexacts] at he
      exact Or.inr ⟨x, y, d, rfl, rfl, hd, he, hsum⟩

/-! ### Extrema -/

lemma compare_trans {a b c : CellPlace} {o : Ordering} (hab : CellPlace.compare a b = o)
    (hbc : CellPlace.compare b c = o) : CellPlace.compare a c = o := by
  cases o with
  | lt => exact Std.TransCmp.lt_trans hab hbc
  | eq => exact Std.TransCmp.eq_trans hab hbc
  | gt => exact Std.TransCmp.gt_trans hab hbc

/-- An extremum is one of the cells that are not NULL, and none of them lies on its wanted side. -/
def IsExtremum (wanted : Ordering) (vs : List Cell) : Option Cell → Prop
  | none => ∀ v ∈ vs, v.isNull = true
  | some x => x ∈ vs ∧ x.isNull = false ∧
    ∀ v ∈ vs, v.isNull = false → CellPlace.compare v.place x.place ≠ wanted

lemma isExtremum_nil (wanted : Ordering) : IsExtremum wanted [] none := List.forall_mem_nil _

variable {wanted : Ordering}

/-- Keeping the extremum of one more cell keeps it an extremum. -/
lemma IsExtremum.keepExtremum (hw : wanted ≠ .eq) (h : IsExtremum wanted vs t)
    (hexact : ∀ w ∈ vs ++ [v], w.type? ≠ some .float64)
    (hkeep : keepExtremum wanted t v = (.ok (), t')) : IsExtremum wanted (vs ++ [v]) t' := by
  rw [Accumulator.keepExtremum.eq_def] at hkeep
  split at hkeep
  next hnull =>
    cases hkeep
    cases t with
    | none => exact List.forall_mem_append.mpr ⟨h, List.forall_mem_singleton.mpr hnull⟩
    | some x =>
      refine ⟨List.mem_append_left _ h.1, h.2.1, ?_⟩
      rw [List.forall_mem_append, List.forall_mem_singleton]
      exact ⟨h.2.2, fun hv => absurd hnull (ne_true_of_eq_false hv)⟩
  next hnull =>
    rw [Bool.not_eq_true] at hnull
    have hself : CellPlace.compare v.place v.place ≠ wanted := by
      have heq : CellPlace.compare v.place v.place = .eq := Std.ReflCmp.compare_self
      rw [heq]
      exact hw.symm
    cases t with
    | none =>
      cases hkeep
      refine ⟨List.mem_append_right _ (List.mem_singleton_self v), hnull, ?_⟩
      rw [List.forall_mem_append, List.forall_mem_singleton]
      refine ⟨fun w hw hn => ?_, fun _ => hself⟩
      have hall : ∀ w ∈ vs, w.isNull = true := h
      exact absurd (hall w hw) (ne_true_of_eq_false hn)
    | some x =>
      obtain ⟨hmem, hx, hleast⟩ := h
      cases hcompare : v.compare? x with
      | none =>
        simp only [hcompare] at hkeep
        cases hkeep
      | some o =>
        -- values that are compared are of one family, so their places are compared
        have hrank : v.familyRank = x.familyRank := by
          by_contra hrank
          rw [compare?_eq_none_of_familyRank_ne hrank] at hcompare
          cases hcompare
        rw [List.forall_mem_append, List.forall_mem_singleton] at hexact
        have hplace := compare?_eq_some hexact.2 (hexact.1 x hmem) hnull hrank
        rw [hcompare, Option.some.injEq] at hplace
        simp only [hcompare] at hkeep
        by_cases ho : o = wanted
        · rw [if_pos ho] at hkeep
          cases hkeep
          refine ⟨List.mem_append_right _ (List.mem_singleton_self v), hnull, ?_⟩
          rw [List.forall_mem_append, List.forall_mem_singleton]
          refine ⟨fun w hmem' hn hwv => ?_, fun _ => hself⟩
          exact hleast w hmem' hn (compare_trans hwv (hplace.symm.trans ho))
        · rw [if_neg ho] at hkeep
          cases hkeep
          refine ⟨List.mem_append_left _ hmem, hx, ?_⟩
          rw [List.forall_mem_append, List.forall_mem_singleton]
          refine ⟨hleast, fun _ => ?_⟩
          rwa [← hplace]

/-- Extrema of the same cells in any order are both missing, or have one place. -/
lemma IsExtremum.perm (hw : wanted ≠ .eq) (h : IsExtremum wanted vs t)
    (h' : IsExtremum wanted ws t') (hperm : vs.Perm ws) :
    (t = none ∧ t' = none) ∨
      ∃ x y, t = some x ∧ t' = some y ∧ x ∈ vs ∧ y ∈ ws ∧ x.place = y.place := by
  cases t with
  | none =>
    cases t' with
    | none => exact Or.inl ⟨rfl, rfl⟩
    | some y =>
      have hall : ∀ v ∈ vs, v.isNull = true := h
      exact absurd (hall y (hperm.mem_iff.mpr h'.1)) (ne_true_of_eq_false h'.2.1)
  | some x =>
    cases t' with
    | none =>
      have hall : ∀ v ∈ ws, v.isNull = true := h'
      exact absurd (hall x (hperm.mem_iff.mp h.1)) (ne_true_of_eq_false h.2.1)
    | some y =>
      refine Or.inr ⟨x, y, rfl, rfl, h.1, h'.1, ?_⟩
      have hxy := h'.2.2 x (hperm.mem_iff.mp h.1) h.2.1
      have hyx := h.2.2 y (hperm.mem_iff.mpr h'.1) h'.2.1
      have hswap : CellPlace.compare y.place x.place = (CellPlace.compare x.place y.place).swap :=
        Std.OrientedCmp.eq_swap
      have heq : CellPlace.compare x.place y.place = .eq := by
        cases hc : CellPlace.compare x.place y.place <;> cases wanted <;> simp_all
      exact Std.LawfulEqCmp.eq_of_compare heq

/-! ### Averages -/

/-- An exact count is zero exactly if its value is. -/
lemma isZeroCount_eq {c : Cell} {e : Decimal} (hc : c.toDecimal? = some e)
    (hscale : e.scale.val = 0) : isZeroCount c = decide (e.mantissa.val = 0) := by
  have hexact : exactCount? c = some e.mantissa := by
    rw [exactCount?, hc, Option.bind_some, if_pos hscale]
  rw [isZeroCount, hexact]
  by_cases hzero : e.mantissa.val = 0
  · simp [hzero]
  · simp only [hzero, decide_false, Bool.false_or]
    cases c with
    | int32 n =>
      cases hc
      exact Binary64.isZero_ofInt hzero
    | int64 n =>
      cases hc
      exact Binary64.isZero_ofInt hzero
    | decimal d =>
      cases hc
      exact Decimal.isZero_toBinary64_trim hscale hzero
    | _ => cases hc

/-- Exact sums and counts with the same values have the same average, if it can be formed. -/
lemma average_eq {c c' : Cell} {d e : Decimal} {places : Decimal.Scale}
    (hx : x.toDecimal? = some d) (hy : y.toDecimal? = some d) (hc : c.toDecimal? = some e)
    (hc' : c'.toDecimal? = some e) (hscale : e.scale.val = 0)
    (hdiv : ∀ n : Signed 128, n.val ≠ 0 → ∃ q, d.divRound? n places = some q) :
    average x c places = average y c' places ∧ (average x c places).type? ≠ some .float64 := by
  rw [average, average, isNull_of_toDecimal? hx, isNull_of_toDecimal? hy, isZeroCount_eq hc hscale,
    isZeroCount_eq hc' hscale]
  by_cases hzero : e.mantissa.val = 0
  · simp [hzero, type?]
  · obtain ⟨q, hq⟩ := hdiv e.mantissa hzero
    have haverage {x c : Cell} (hx : x.toDecimal? = some d) (hc : c.toDecimal? = some e) :
        exactAverage? x c places = some q := by
      rw [exactAverage?, hx, Option.bind_some, exactCount?, hc, Option.bind_some, if_pos hscale,
        Option.bind_some, hq]
    simp [hzero, haverage hx hc, haverage hy hc', type?]

end Accumulator

end Confluence
