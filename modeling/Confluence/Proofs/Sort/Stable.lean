import Mathlib.Data.List.Basic
import Mathlib.Data.List.Perm.Basic
import Mathlib.Tactic.Common

/-!
# Stable sorts

A list is the stable sort of another one if it holds the same elements in order, and elements that
tie stand as they stood before. For a comparison with the laws of a total preorder there is exactly
one such list, and `List.mergeSort` finds it. A list that is put together from its least element
and a stable sort of the others is a stable sort: this is the step of every merge.
-/

namespace Confluence

variable {α : Type} {cmp : α → α → Ordering}

/-- `ys` is the stable sort of `xs`. -/
structure IsStableSort (cmp : α → α → Ordering) (xs ys : List α) : Prop where
  perm : ys.Perm xs
  sorted : ys.Pairwise fun a b => (cmp a b).isLE
  /-- Elements that tie with `a` keep their order. -/
  stable : ∀ a ∈ xs, ys.filter (cmp a · = .eq) = xs.filter (cmp a · = .eq)

namespace IsStableSort

/-- Only the comparisons of elements of the list matter. -/
lemma congr {cmp' : α → α → Ordering} {xs ys : List α}
    (hcmp : ∀ a ∈ xs, ∀ b ∈ xs, cmp a b = cmp' a b) (h : IsStableSort cmp xs ys) :
    IsStableSort cmp' xs ys where
  perm := h.perm
  sorted := by
    refine h.sorted.imp_of_mem fun {a b} ha hb hab => ?_
    rwa [← hcmp a (h.perm.mem_iff.mp ha) b (h.perm.mem_iff.mp hb)]
  stable a ha := by
    have hx : xs.filter (cmp a · = .eq) = xs.filter (cmp' a · = .eq) :=
      List.filter_congr fun b hb => by rw [hcmp a ha b hb]
    have hy : ys.filter (cmp a · = .eq) = ys.filter (cmp' a · = .eq) :=
      List.filter_congr fun b hb => by rw [hcmp a ha b (h.perm.mem_iff.mp hb)]
    rw [← hx, ← hy]
    exact h.stable a ha

/-- A list in order is its own stable sort. -/
lemma self {xs : List α} (h : xs.Pairwise fun a b => (cmp a b).isLE) : IsStableSort cmp xs xs where
  perm := List.Perm.refl xs
  sorted := h
  stable _ _ := rfl

variable [Std.TransCmp cmp]

lemma filter_congr_of_eq {a c : α} (h : cmp c a = .eq) (xs : List α) :
    xs.filter (cmp c · = .eq) = xs.filter (cmp a · = .eq) :=
  List.filter_congr fun b _ => by rw [Std.TransCmp.congr_left h]

/-- The order among ties is kept whatever they tie with. -/
lemma filter_eq {xs ys : List α} (h : IsStableSort cmp xs ys) (c : α) :
    ys.filter (cmp c · = .eq) = xs.filter (cmp c · = .eq) := by
  by_cases hc : ∃ a ∈ xs, cmp c a = .eq
  · obtain ⟨a, ha, hca⟩ := hc
    rw [filter_congr_of_eq hca, filter_congr_of_eq hca]
    exact h.stable a ha
  · push Not at hc
    have hx : xs.filter (cmp c · = .eq) = [] := by
      simpa [List.filter_eq_nil_iff] using hc
    have hy : ys.filter (cmp c · = .eq) = [] := by
      simpa [List.filter_eq_nil_iff, h.perm.mem_iff] using hc
    rw [hx, hy]

/-- Two ordered lists that agree on all ties are the same. -/
lemma eq_of_filter_eq {ys zs : List α} (hy : ys.Pairwise fun a b => (cmp a b).isLE)
    (hz : zs.Pairwise fun a b => (cmp a b).isLE)
    (h : ∀ c, ys.filter (cmp c · = .eq) = zs.filter (cmp c · = .eq)) : ys = zs := by
  have hmem {us vs : List α} (huv : ∀ c, us.filter (cmp c · = .eq) = vs.filter (cmp c · = .eq))
      {a : α} (ha : a ∈ us) : a ∈ vs := by
    have : a ∈ us.filter (cmp a · = .eq) := by simp [ha, Std.ReflCmp.compare_self]
    rw [huv a] at this
    exact List.mem_of_mem_filter this
  induction ys generalizing zs with
  | nil =>
    cases zs with
    | nil => rfl
    | cons b zs => exact absurd (hmem (fun c => (h c).symm) List.mem_cons_self) List.not_mem_nil
  | cons a ys ih =>
    cases zs with
    | nil => exact absurd (hmem h List.mem_cons_self) List.not_mem_nil
    | cons b zs =>
      rw [List.pairwise_cons] at hy hz
      have hba : (cmp b a).isLE := by
        rcases List.mem_cons.mp (hmem h (List.mem_cons_self (a := a))) with rfl | ha
        · exact Std.ReflCmp.isLE_rfl
        · exact hz.1 a ha
      have hab : (cmp a b).isLE := by
        rcases List.mem_cons.mp (hmem (fun c => (h c).symm) (List.mem_cons_self (a := b)))
          with rfl | hb
        · exact Std.ReflCmp.isLE_rfl
        · exact hy.1 b hb
      -- the two heads tie, so each is the first of one and the same list of ties
      have heq : cmp a b = .eq := Std.OrientedCmp.isLE_antisymm hab hba
      have haa : cmp a a = .eq := Std.ReflCmp.compare_self
      obtain ⟨rfl, -⟩ : a = b ∧ _ := by
        simpa [List.filter_cons, heq, haa] using h a
      rw [ih hy.2 hz.2 fun c => ?_]
      have hc := h c
      rw [List.filter_cons, List.filter_cons] at hc
      split_ifs at hc
      · exact (List.cons.inj hc).2
      · exact hc

/-- There is one stable sort. -/
lemma unique {xs ys zs : List α} (hy : IsStableSort cmp xs ys) (hz : IsStableSort cmp xs zs) :
    ys = zs :=
  eq_of_filter_eq hy.sorted hz.sorted fun c => by rw [hy.filter_eq, hz.filter_eq]

/-- Merge sort is stable. -/
lemma mergeSort (xs : List α) : IsStableSort cmp xs (xs.mergeSort fun a b => cmp a b != .gt) := by
  have hle (a b : α) : (cmp a b != .gt) = true ↔ (cmp a b).isLE := by
    cases cmp a b <;> decide
  have htrans (a b c : α) (hab : (cmp a b != .gt) = true) (hbc : (cmp b c != .gt) = true) :
      (cmp a c != .gt) = true := by
    rw [hle] at hab hbc ⊢
    exact Std.TransCmp.isLE_trans hab hbc
  have htotal (a b : α) : (cmp a b != .gt || cmp b a != .gt) = true := by
    rw [@Std.OrientedCmp.eq_swap _ cmp _ b a]
    cases cmp a b <;> decide
  have hperm := List.mergeSort_perm xs fun a b => cmp a b != .gt
  refine ⟨hperm, ?_, fun a _ => ?_⟩
  · exact (List.pairwise_mergeSort htrans htotal xs).imp fun {a b} => (hle a b).mp
  -- ties are a sorted sublist, which merge sort keeps; there are as many of them afterwards
  · have hties : (xs.filter (cmp a · = .eq)).Pairwise fun b c => (cmp b c != .gt) = true := by
      refine List.pairwise_of_forall_mem_list fun b hb c hc => ?_
      simp only [List.mem_filter, decide_eq_true_eq] at hb hc
      rw [hle, Std.TransCmp.congr_left (Std.OrientedCmp.eq_symm hb.2), hc.2]
      rfl
    have hsub := List.sublist_mergeSort htrans htotal hties List.filter_sublist
    have hsub' := hsub.filter (cmp a · = .eq)
    simp only [List.filter_filter, Bool.and_self] at hsub'
    exact (hsub'.eq_of_length (hperm.filter _).length_eq.symm).symm

/-- Put the first of the least elements in front of a stable sort of the others. -/
lemma cons {l₁ l₂ ys : List α} {a : α} (hlt : ∀ b ∈ l₁, cmp a b = .lt)
    (hle : ∀ b ∈ l₂, (cmp a b).isLE) (h : IsStableSort cmp (l₁ ++ l₂) ys) :
    IsStableSort cmp (l₁ ++ a :: l₂) (a :: ys) where
  perm := (h.perm.cons a).trans List.perm_middle.symm
  sorted := by
    refine List.pairwise_cons.mpr ⟨fun b hb => ?_, h.sorted⟩
    rcases List.mem_append.mp (h.perm.mem_iff.mp hb) with hb | hb
    · rw [hlt b hb]
      rfl
    · exact hle b hb
  stable c _ := by
    have hys := h.filter_eq c
    rw [List.filter_append] at hys
    rw [List.filter_append, List.filter_cons, List.filter_cons, hys]
    split_ifs with hca
    · have hl₁ : l₁.filter (cmp c · = .eq) = [] := by
        rw [filter_congr_of_eq (of_decide_eq_true hca)]
        simp only [List.filter_eq_nil_iff, decide_eq_true_eq]
        intro b hb
        rw [hlt b hb]
        decide
      rw [hl₁, List.nil_append, List.nil_append]
    · rfl

/-- One step of a merge of ordered queues: the first of the least heads goes out. -/
lemma cons_of_queues {pre post : List (List α)} {q ys : List α} {a : α}
    (hsorted : ∀ p ∈ pre ++ (a :: q) :: post, p.Pairwise fun b c => (cmp b c).isLE)
    (hpre : ∀ p ∈ pre, ∀ b ∈ p.head?, cmp a b = .lt)
    (hpost : ∀ p ∈ post, ∀ b ∈ p.head?, (cmp a b).isLE)
    (h : IsStableSort cmp (pre ++ q :: post).flatten ys) :
    IsStableSort cmp (pre ++ (a :: q) :: post).flatten (a :: ys) := by
  rw [List.flatten_append, List.flatten_cons, List.cons_append]
  rw [List.flatten_append, List.flatten_cons] at h
  refine cons (fun b hb => ?_) (fun b hb => ?_) h
  · obtain ⟨p, hp, hb⟩ := List.mem_flatten.mp hb
    cases p with
    | nil => exact absurd hb List.not_mem_nil
    | cons c p =>
      have hac : cmp a c = .lt := hpre _ hp c rfl
      have hs := hsorted _ (List.mem_append_left _ hp)
      rcases List.mem_cons.mp hb with rfl | hb
      · exact hac
      · exact Std.TransCmp.lt_of_lt_of_isLE hac ((List.pairwise_cons.mp hs).1 b hb)
  · rcases List.mem_append.mp hb with hb | hb
    · exact (List.pairwise_cons.mp (hsorted _ (by simp))).1 b hb
    · obtain ⟨p, hp, hb⟩ := List.mem_flatten.mp hb
      cases p with
      | nil => exact absurd hb List.not_mem_nil
      | cons c p =>
        have hac : (cmp a c).isLE := hpost _ hp c rfl
        have hs := hsorted _ (List.mem_append_right _ (List.mem_cons_of_mem _ hp))
        rcases List.mem_cons.mp hb with rfl | hb
        · exact hac
        · exact Std.TransCmp.isLE_trans hac ((List.pairwise_cons.mp hs).1 b hb)

/-- A stable sort of stably sorted parts is a stable sort of the parts as they were. -/
lemma of_flatten {parts sorts : List (List α)} {ys : List α}
    (hparts : List.Forall₂ (IsStableSort cmp) parts sorts) (h : IsStableSort cmp sorts.flatten ys) :
    IsStableSort cmp parts.flatten ys := by
  have hflatten : sorts.flatten.Perm parts.flatten ∧ ∀ c,
      sorts.flatten.filter (cmp c · = .eq) = parts.flatten.filter (cmp c · = .eq) := by
    clear h
    induction hparts with
    | nil => exact ⟨List.Perm.refl _, fun _ => rfl⟩
    | cons hpart _ ih =>
      refine ⟨hpart.perm.append ih.1, fun c => ?_⟩
      rw [List.flatten_cons, List.flatten_cons, List.filter_append, List.filter_append,
        hpart.filter_eq, ih.2]
  exact ⟨h.perm.trans hflatten.1, h.sorted, fun c _ => (h.filter_eq c).trans (hflatten.2 c)⟩

end IsStableSort

/-- Two lists in strict order whose elements tie in pairs are related one by one. -/
lemma forall₂_of_pairwise_lt [Std.TransCmp cmp] {S : α → α → Prop} {xs ys : List α}
    (hx : xs.Pairwise fun a b => cmp a b = .lt) (hy : ys.Pairwise fun a b => cmp a b = .lt)
    (hxy : ∀ x ∈ xs, ∃ y ∈ ys, cmp x y = .eq) (hyx : ∀ y ∈ ys, ∃ x ∈ xs, cmp x y = .eq)
    (hS : ∀ x ∈ xs, ∀ y ∈ ys, cmp x y = .eq → S x y) : List.Forall₂ S xs ys := by
  induction xs generalizing ys with
  | nil =>
    cases ys with
    | nil => exact .nil
    | cons y ys =>
      obtain ⟨x, hx, -⟩ := hyx y List.mem_cons_self
      cases hx
  | cons x xs ih =>
    cases ys with
    | nil =>
      obtain ⟨y, hy, -⟩ := hxy x List.mem_cons_self
      cases hy
    | cons y ys =>
      rw [List.pairwise_cons] at hx hy
      -- the heads tie: what ties with one of them cannot come later, as the other one is there
      have heads : cmp x y = .eq := by
        obtain ⟨y', hy', htie⟩ := hxy x List.mem_cons_self
        obtain ⟨x', hx', htie'⟩ := hyx y List.mem_cons_self
        rcases List.mem_cons.mp hy' with rfl | hy'
        · exact htie
        rcases List.mem_cons.mp hx' with rfl | hx'
        · exact htie'
        have hlt : cmp x y = .lt := by
          rw [← Std.TransCmp.congr_right htie']
          exact hx.1 x' hx'
        have hgt : cmp y x = .lt := by
          rw [Std.TransCmp.congr_right htie]
          exact hy.1 y' hy'
        have hself : cmp x x = .eq := Std.ReflCmp.compare_self
        rw [Std.TransCmp.lt_trans hlt hgt] at hself
        cases hself
      refine .cons (hS x List.mem_cons_self y List.mem_cons_self heads) (ih hx.2 hy.2 ?_ ?_ ?_)
      · intro x' hx'
        obtain ⟨y', hy', htie⟩ := hxy x' (List.mem_cons_of_mem x hx')
        rcases List.mem_cons.mp hy' with rfl | hy'
        · have hlt := hx.1 x' hx'
          rw [Std.TransCmp.congr_left heads, Std.OrientedCmp.eq_comm.mp htie] at hlt
          cases hlt
        · exact ⟨y', hy', htie⟩
      · intro y' hy'
        obtain ⟨x', hx', htie⟩ := hyx y' (List.mem_cons_of_mem y hy')
        rcases List.mem_cons.mp hx' with rfl | hx'
        · have hlt := hy.1 y' hy'
          rw [← Std.TransCmp.congr_left heads, htie] at hlt
          cases hlt
        · exact ⟨x', hx', htie⟩
      · exact fun x' hx' y' hy' =>
          hS x' (List.mem_cons_of_mem x hx') y' (List.mem_cons_of_mem y hy')

end Confluence
