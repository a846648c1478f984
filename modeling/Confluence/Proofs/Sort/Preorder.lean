import Confluence.Proofs.Cell.Line
import Confluence.Proofs.Sort.Places

/-!
# How far the order of rows is a preorder

Comparing rows is reflexive and antisymmetric, and so is falling into one group. Both are
transitive wherever no decimal meets a float strictly between the same two integers. There a
decimal is rounded before it is compared, so that one float ties with several decimals.
-/

namespace Confluence

/-! ### Swapped operands -/

lemma Binary64.compare?_swap (x y : Binary64) :
    y.compare? x = (x.compare? y).map Ordering.swap := by
  by_cases hx : x = .nan
  · subst hx
    cases y <;> rfl
  · by_cases hy : y = .nan
    · subst hy
      cases x <;> rfl
    · rw [compare?_eq hx hy, compare?_eq hy hx, Option.map_some, ← Std.OrientedOrd.eq_swap]

namespace Cell

variable {a b c : Cell}

/-- A float and an exact number are compared in one way, whichever comes first. -/
lemma compare?_swap_of_toDecimal? {d : Decimal} {x : Binary64} (hb : b.toDecimal? = some d) :
    b.compare? (.float64 x) = ((Cell.float64 x).compare? b).map Ordering.swap ∧
      (Cell.float64 x).compare? b = (b.compare? (.float64 x)).map Ordering.swap := by
  obtain ⟨hleft, hright⟩ := compare_float_toDecimal? (x := x) hb
  rw [hleft, hright]
  cases d.compareBinary64? x with
  | none => exact ⟨rfl, rfl⟩
  | some o => exact ⟨by rw [Option.map_some, Option.map_some, Ordering.swap_swap], rfl⟩

lemma compare?_swap (a b : Cell) : b.compare? a = (a.compare? b).map Ordering.swap := by
  by_cases hr : a.familyRank = b.familyRank
  · obtain ⟨x, y, rfl, rfl⟩ | ⟨x, rfl, d, hd⟩ | ⟨y, rfl, d, hd⟩ | ⟨hfa, hfb⟩ :=
      cases_of_familyRank_eq hr
    · exact x.compare?_swap y
    · exact (compare?_swap_of_toDecimal? hd).1
    · exact (compare?_swap_of_toDecimal? hd).2
    · cases hn : a.isNull with
      | true =>
        have hb := (isNull_eq_of_familyRank_eq hr).symm.trans hn
        rw [isNull_eq_true_iff.mp hn, isNull_eq_true_iff.mp hb]
        rfl
      | false =>
        have hb := (isNull_eq_of_familyRank_eq hr).symm.trans hn
        rw [compare?_eq_some hfa hfb hn hr, compare?_eq_some hfb hfa hb hr.symm, Option.map_some,
          ← Std.OrientedCmp.eq_swap]
  · rw [compare?_eq_none_of_familyRank_ne hr, compare?_eq_none_of_familyRank_ne (Ne.symm hr),
      Option.map_none]

lemma compareRanked_swap (a b : Cell) : b.compareRanked a = (a.compareRanked b).swap := by
  rw [compareRanked, compareRanked, compare?_swap]
  cases a.compare? b with
  | none => exact Std.OrientedOrd.eq_swap
  | some o => rfl

lemma sameGroup_comm (a b : Cell) : a.sameGroup b = b.sameGroup a := by
  have hsame : b.sameValue a = a.sameValue b := by
    rw [sameValue, sameValue, compare?_swap a b]
    cases a.compare? b with
    | none => rfl
    | some o => cases o <;> rfl
  cases hna : a.isNull <;> cases hnb : b.isNull <;> simp [sameGroup, hna, hnb, hsame]

end Cell

/-! ### Sorting -/

namespace SortTerm

variable {κ : Type}

lemma compareCells_swap (t : SortTerm κ) (a b : Cell) :
    t.compareCells b a = (t.compareCells a b).swap := by
  rw [compareCells, compareCells]
  cases a.isNull <;> cases b.isNull
  · cases t.direction <;> simp [Cell.compareRanked_swap a b]
  · exact Ordering.swap_swap.symm
  · rfl
  · rfl

end SortTerm

namespace RowOrder

variable {o : RowOrder} {a b c : Row}

lemma compareRows_swap (o : RowOrder) (a b : Row) :
    o.compareRows b a = (o.compareRows a b).swap := by
  induction o with
  | nil => rfl
  | cons t ts ih =>
    rw [compareRows, compareRows, Ordering.swap_then, ← t.compareCells_swap, ← ih]

/-- The order of rows by the places of their cells, floats included. -/
def compareLinePlaces : RowOrder → Row → Row → Ordering
  | [] => fun _ _ => .eq
  | t :: ts =>
    compareLex (fun a b => t.comparePlaces (a.cell t.column).linePlace (b.cell t.column).linePlace)
      (compareLinePlaces ts)

instance (o : RowOrder) : Std.TransCmp o.compareLinePlaces := by
  induction o with
  | nil => exact { eq_swap := rfl, isLE_trans := fun h _ => h }
  | cons t ts ih =>
    have : Std.TransCmp fun a b : Row =>
        t.comparePlaces (a.cell t.column).linePlace (b.cell t.column).linePlace :=
      { eq_swap := Std.OrientedCmp.eq_swap, isLE_trans := Std.TransCmp.isLE_trans }
    exact inferInstanceAs (Std.TransCmp (compareLex _ (compareLinePlaces ts)))

/-- Whether no cell that an order compares is rounded. -/
def Unrounded (o : RowOrder) (a b : Row) : Prop :=
  ∀ t ∈ o, ¬ (a.cell t.column).SharesUnit (b.cell t.column)

instance (o : RowOrder) (a b : Row) : Decidable (o.Unrounded a b) :=
  inferInstanceAs (Decidable (∀ t ∈ o, _))

end RowOrder

/-- Whether none of some cells is NaN. -/
def NoNaN (cells : List Cell) : Prop := ∀ v ∈ cells, v ≠ .float64 .nan

instance (cells : List Cell) : Decidable (NoNaN cells) :=
  inferInstanceAs (Decidable (∀ v ∈ cells, _))

lemma NoNaN.cell_ne {r : Row} (h : NoNaN r) (column : Nat) : r.cell column ≠ .float64 .nan := by
  rw [Row.cell, List.getD_eq_getElem?_getD]
  cases hv : r[column]? with
  | none => simp
  | some v => exact h v (List.mem_of_getElem? hv)

lemma RowOrder.compareRows_eq_compareLinePlaces {o : RowOrder} {a b : Row} (ha : NoNaN a)
    (hb : NoNaN b) (h : o.Unrounded a b) : o.compareRows a b = o.compareLinePlaces a b := by
  induction o with
  | nil => rfl
  | cons t ts ih =>
    rw [Unrounded, List.forall_mem_cons] at h
    have hcells := Cell.comparesAs_linePlace (ha.cell_ne t.column) (hb.cell_ne t.column) h.1
    rw [compareRows, compareLinePlaces, compareLex, t.compareCells_eq_of_comparesAs hcells, ih h.2]

/-! ### Grouping -/

namespace GroupKey

variable {k l m : GroupKey}

/-- Whether no cells of two keys at one position are rounded. -/
def Unrounded (k l : GroupKey) : Prop := ∀ p ∈ k.zip l, ¬ p.1.SharesUnit p.2

instance (k l : GroupKey) : Decidable (k.Unrounded l) := inferInstanceAs (Decidable (∀ p ∈ _, _))

lemma same_comm (k l : GroupKey) : k.same l = l.same k := by
  induction k generalizing l with
  | nil => cases l <;> rfl
  | cons a as ih =>
    cases l with
    | nil => rfl
    | cons b bs => rw [same, same, a.sameGroup_comm, ih]

/-- Keys name one group if their cells have the same places, wherever none is rounded. -/
lemma same_iff_linePlace (hk : NoNaN k) (hl : NoNaN l) (h : k.Unrounded l) :
    k.same l = true ↔ k.map Cell.linePlace = l.map Cell.linePlace := by
  induction k generalizing l with
  | nil => cases l <;> simp [same]
  | cons a as ih =>
    cases l with
    | nil => simp [same]
    | cons b bs =>
      rw [NoNaN, List.forall_mem_cons] at hk hl
      rw [Unrounded, List.zip_cons_cons, List.forall_mem_cons] at h
      rw [same, Bool.and_eq_true, (Cell.comparesAs_linePlace hk.1 hl.1 h.1).sameGroup_iff,
        ih hk.2 hl.2 h.2, List.map_cons, List.map_cons, List.cons.injEq]

end GroupKey

/-! ### The laws -/

lemma Cell.not_sharesUnit_self (v : Cell) : ¬ v.SharesUnit v := by
  cases v <;> simp [SharesUnit, toDecimal?]

lemma RowOrder.unrounded_self (o : RowOrder) (r : Row) : o.Unrounded r r :=
  fun _ _ => Cell.not_sharesUnit_self _

lemma GroupKey.unrounded_self (k : GroupKey) : k.Unrounded k := by
  induction k with
  | nil => exact List.forall_mem_nil _
  | cons v vs ih =>
    rw [Unrounded, List.zip_cons_cons, List.forall_mem_cons]
    exact ⟨v.not_sharesUnit_self, ih⟩

/-- Comparing rows without NaN is reflexive and antisymmetric, and so far as no cell is rounded it
is transitive; and equality of group keys is reflexive, symmetric and so far transitive. -/
theorem compareRows_preorder_and_same_equivalence (o : RowOrder) (a b c : Row) (k l m : GroupKey)
    (ha : NoNaN a) (hb : NoNaN b) (hc : NoNaN c) (hk : NoNaN k) (hl : NoNaN l) (hm : NoNaN m) :
    o.compareRows a a = .eq ∧ o.compareRows b a = (o.compareRows a b).swap ∧
      (o.Unrounded a b → o.Unrounded b c → o.Unrounded a c → (o.compareRows a b).isLE = true →
        (o.compareRows b c).isLE = true → (o.compareRows a c).isLE = true) ∧
      k.same k = true ∧ k.same l = l.same k ∧
      (k.Unrounded l → l.Unrounded m → k.Unrounded m → k.same l = true → l.same m = true →
        k.same m = true) := by
  refine ⟨?_, o.compareRows_swap a b, fun hab hbc hac h₁ h₂ => ?_, ?_, k.same_comm l,
    fun hkl hlm hkm h₁ h₂ => ?_⟩
  · rw [RowOrder.compareRows_eq_compareLinePlaces ha ha (o.unrounded_self a)]
    exact Std.ReflCmp.compare_self
  · rw [RowOrder.compareRows_eq_compareLinePlaces ha hb hab] at h₁
    rw [RowOrder.compareRows_eq_compareLinePlaces hb hc hbc] at h₂
    rw [RowOrder.compareRows_eq_compareLinePlaces ha hc hac]
    exact Std.TransCmp.isLE_trans h₁ h₂
  · exact (GroupKey.same_iff_linePlace hk hk k.unrounded_self).mpr rfl
  · rw [GroupKey.same_iff_linePlace hk hl hkl] at h₁
    rw [GroupKey.same_iff_linePlace hl hm hlm] at h₂
    exact (GroupKey.same_iff_linePlace hk hm hkm).mpr (h₁.trans h₂)

/-- The float `2^53` is an integer, so it is compared exactly with the decimal half a unit above it
and with the next integer, although both round to it. -/
theorem preorder_and_equivalence_beyond_floats :
    let o : RowOrder := [⟨0, .asc, .last⟩]
    let a : Row := [.float64 (.ofBits 0x4340000000000000)]
    let b : Row := [.decimal ⟨⟨90071992547409925, by decide⟩, 1⟩]
    let c : Row := [.int64 ⟨9007199254740993, by decide⟩]
    let k : GroupKey := [.int32 ⟨7, by decide⟩, .null]
    let l : GroupKey := [.float64 (.ofBits 0x401c000000000000), .null]
    let m : GroupKey := [.decimal ⟨⟨700, by decide⟩, 2⟩, .null]
    NoNaN a ∧ NoNaN b ∧ NoNaN c ∧ NoNaN k ∧ NoNaN l ∧ NoNaN m ∧
      o.compareRows a a = .eq ∧ o.compareRows b a = (o.compareRows a b).swap ∧
      (o.compareRows a c).isLE = true ∧ k.same k = true ∧ k.same l = l.same k ∧
      k.same m = true := by
  intro o a b c k l m
  have ha : NoNaN a := by decide +kernel
  have hb : NoNaN b := by decide +kernel
  have hc : NoNaN c := by decide +kernel
  have hk : NoNaN k := by decide +kernel
  have hl : NoNaN l := by decide +kernel
  have hm : NoNaN m := by decide +kernel
  obtain ⟨hself, hswap, htrans, hsame, hcomm, htrans'⟩ :=
    compareRows_preorder_and_same_equivalence o a b c k l m ha hb hc hk hl hm
  have hac := htrans (by decide +kernel) (by decide +kernel) (by decide +kernel)
    (by decide +kernel) (by decide +kernel)
  have hkm := htrans' (by decide +kernel) (by decide +kernel) (by decide +kernel)
    (by decide +kernel) (by decide +kernel)
  exact ⟨ha, hb, hc, hk, hl, hm, hself, hswap, hac, hsame, hcomm, hkm⟩

/-- The float next above `0.1` ties with the decimals `0.1` and `0.10000000000000001`, which are
not equal: rounding makes three rows go round in a circle. -/
theorem compareRows_not_transitive :
    let o : RowOrder := [⟨0, .asc, .last⟩]
    let a : Row := [.decimal ⟨⟨10000000000000001, by decide⟩, 17⟩]
    let b : Row := [.float64 (.ofBits 0x3fb999999999999a)]
    let c : Row := [.decimal ⟨⟨1, by decide⟩, 1⟩]
    (NoNaN a ∧ NoNaN b ∧ NoNaN c) ∧
      ((o.compareRows a b).isLE = true ∧ (o.compareRows b c).isLE = true ∧
        (o.compareRows a c).isLE = false) ∧
      GroupKey.same a b = true ∧ GroupKey.same b c = true ∧ GroupKey.same a c = false := by
  decide +kernel

end Confluence
