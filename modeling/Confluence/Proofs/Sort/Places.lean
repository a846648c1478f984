import Confluence.Group.Table
import Confluence.Proofs.Cell.Place
import Confluence.Proofs.Sort.Stable

/-!
# The order of rows as an order of places

On rows without floats in the sort columns the order of rows is lexicographic comparison of places,
which has the laws of a total preorder. Rows tie in it exactly if their cells have the same places,
and so exactly if a grouping by the same columns puts them into one group.
-/

namespace Confluence

/-! ### One term -/

namespace SortTerm

variable {κ : Type}

/-- Where NULL and where the values stand under a term. -/
def nullRank (t : SortTerm κ) (p : CellPlace) : Nat :=
  if p.rank = 0 then
    match t.nulls with
    | .first => 0
    | .last => 2
  else 1

/-- The order of places in the direction of a term. -/
def compareDirected (t : SortTerm κ) : CellPlace → CellPlace → Ordering :=
  match t.direction with
  | .asc => CellPlace.compare
  | .desc => fun p q => CellPlace.compare q p

instance (t : SortTerm κ) : Std.TransCmp t.compareDirected := by
  rw [compareDirected]
  split <;> infer_instance

/-- The order of places under a term. -/
def comparePlaces (t : SortTerm κ) : CellPlace → CellPlace → Ordering :=
  compareLex (compareOn t.nullRank) t.compareDirected

instance (t : SortTerm κ) : Std.TransCmp t.comparePlaces :=
  inferInstanceAs (Std.TransCmp (compareLex (compareOn t.nullRank) t.compareDirected))

lemma comparePlaces_eq_eq_iff {t : SortTerm κ} {p q : CellPlace} :
    t.comparePlaces p q = .eq ↔ p = q := by
  constructor
  · intro h
    rw [comparePlaces, compareLex_eq_eq] at h
    have hdir := h.2
    cases hd : t.direction with
    | asc =>
      have hpq : CellPlace.compare p q = .eq := by simpa [compareDirected, hd] using hdir
      exact Std.LawfulEqCmp.eq_of_compare hpq
    | desc =>
      have hqp : CellPlace.compare q p = .eq := by simpa [compareDirected, hd] using hdir
      exact (Std.LawfulEqCmp.eq_of_compare hqp).symm
  · rintro rfl
    exact Std.ReflCmp.compare_self

/-- A term orders cells as it orders the places that they are compared by. -/
lemma compareCells_eq_of_comparesAs (t : SortTerm κ) {a b : Cell} {p q : CellPlace}
    (h : a.ComparesAs b p q) : t.compareCells a b = t.comparePlaces p q := by
  have hrank {c : Cell} {p : CellPlace} (hp : p.rank = c.familyRank) : t.nullRank p =
      if c.isNull then (match t.nulls with | .first => 0 | .last => 2) else 1 := by
    simp only [nullRank, hp, ← Cell.isNull_iff_familyRank_eq_zero]
  rw [compareCells, comparePlaces, compareLex, compareOn, hrank h.rank_left, hrank h.rank_right]
  cases hna : a.isNull with
  | false =>
    cases hnb : b.isNull with
    | false => cases hd : t.direction <;>
        simp [compareDirected, hd, h.compareRanked_eq, ← Std.OrientedCmp.eq_swap]
    | true => cases hn : t.nulls <;> rfl
  | true =>
    cases hnb : b.isNull with
    | false => cases hn : t.nulls <;> rfl
    | true =>
      obtain rfl := h.eq_of_null (Cell.isNull_eq_true_iff.mp hna) (Cell.isNull_eq_true_iff.mp hnb)
      simp [Std.ReflCmp.compare_self]

end SortTerm

/-! ### Rows -/

/-- Whether the cells of a row that an order looks at are no floats. -/
def RowOrder.Exact (o : RowOrder) (r : Row) : Prop :=
  ∀ t ∈ o, (r.cell t.column).type? ≠ some .float64

namespace RowOrder

instance (o : RowOrder) (r : Row) : Decidable (o.Exact r) :=
  inferInstanceAs (Decidable (∀ t ∈ o, (r.cell t.column).type? ≠ some .float64))

/-- The order of rows by the places of their cells. -/
def comparePlaces : RowOrder → Row → Row → Ordering
  | [] => fun _ _ => .eq
  | t :: ts =>
    compareLex (fun a b => t.comparePlaces (a.cell t.column).place (b.cell t.column).place)
      (comparePlaces ts)

instance (o : RowOrder) : Std.TransCmp o.comparePlaces := by
  induction o with
  | nil => exact { eq_swap := rfl, isLE_trans := fun h _ => h }
  | cons t ts ih =>
    have : Std.TransCmp fun a b : Row =>
        t.comparePlaces (a.cell t.column).place (b.cell t.column).place :=
      { eq_swap := Std.OrientedCmp.eq_swap, isLE_trans := Std.TransCmp.isLE_trans }
    exact inferInstanceAs (Std.TransCmp (compareLex _ (comparePlaces ts)))

lemma comparePlaces_eq_eq_iff {o : RowOrder} {a b : Row} :
    o.comparePlaces a b = .eq ↔
      ∀ t ∈ o, (a.cell t.column).place = (b.cell t.column).place := by
  induction o with
  | nil => simp [comparePlaces]
  | cons t ts ih =>
    rw [comparePlaces, compareLex_eq_eq, ih, SortTerm.comparePlaces_eq_eq_iff, List.forall_mem_cons]

/-- Only the cells in the sort columns matter. -/
lemma comparePlaces_congr {o : RowOrder} {a a' b b' : Row}
    (ha : ∀ t ∈ o, a.cell t.column = a'.cell t.column)
    (hb : ∀ t ∈ o, b.cell t.column = b'.cell t.column) :
    o.comparePlaces a b = o.comparePlaces a' b' := by
  induction o with
  | nil => rfl
  | cons t ts ih =>
    rw [List.forall_mem_cons] at ha hb
    rw [comparePlaces, compareLex, compareLex, ha.1, hb.1, ih ha.2 hb.2]

lemma compareRows_eq_comparePlaces {o : RowOrder} {a b : Row} (ha : o.Exact a) (hb : o.Exact b) :
    o.compareRows a b = o.comparePlaces a b := by
  induction o with
  | nil => rfl
  | cons t ts ih =>
    rw [Exact, List.forall_mem_cons] at ha hb
    rw [compareRows, comparePlaces, compareLex,
      t.compareCells_eq_of_comparesAs (Cell.comparesAs_place ha.1 hb.1), ih ha.2 hb.2]

/-- The order of sort keys is the order of the rows that they were taken from. -/
lemma compareKeys_keyOf (o : RowOrder) (a b : Row) :
    o.compareKeys (o.keyOf a) (o.keyOf b) = o.compareRows a b := by
  induction o with
  | nil => rfl
  | cons t ts ih =>
    rw [keyOf, List.map_cons, keyOf, List.map_cons, compareKeys, compareRows, List.headD_cons,
      List.headD_cons, List.tail_cons, List.tail_cons]
    exact congrArg _ ih

/-- Sorting is stable on rows without floats in the sort columns. -/
lemma isStableSort_sort {o : RowOrder} {rows : List Row} (h : ∀ r ∈ rows, o.Exact r) :
    IsStableSort o.compareRows rows (o.sort rows) := by
  have hcmp (a : Row) (ha : a ∈ rows) (b : Row) (hb : b ∈ rows) :
      o.compareRows a b = o.comparePlaces a b :=
    compareRows_eq_comparePlaces (h a ha) (h b hb)
  have hsort : o.sort rows = rows.mergeSort fun a b => o.comparePlaces a b != .gt := by
    rw [sort]
    simpa using List.map_mergeSort (f := id) (s := fun a b => o.comparePlaces a b != .gt)
      fun a ha b hb => by rw [hcmp a ha b hb]; rfl
  rw [hsort]
  exact (IsStableSort.mergeSort rows).congr fun a ha b hb => (hcmp a ha b hb).symm

/-- So is sorting by places. -/
lemma isStableSort_sort_comparePlaces {o : RowOrder} {rows : List Row} (h : ∀ r ∈ rows, o.Exact r) :
    IsStableSort o.comparePlaces rows (o.sort rows) :=
  (isStableSort_sort h).congr fun a ha b hb => compareRows_eq_comparePlaces (h a ha) (h b hb)

end RowOrder

/-! ### Groups -/

/-- Two rows fall into one group if their cells in all group columns do. -/
lemma Grouping.same_keyOf {g : Grouping} {a b : Row} :
    (g.keyOf a).same (g.keyOf b) = true ↔
      ∀ c ∈ g.groupColumns, (a.cell c).sameGroup (b.cell c) = true := by
  rw [keyOf, keyOf]
  induction g.groupColumns with
  | nil => simp [GroupKey.same]
  | cons c cs ih =>
    rw [List.map_cons, List.map_cons, GroupKey.same, Bool.and_eq_true, ih, List.forall_mem_cons]

/-- Two rows without floats in the group columns fall into one group if their cells there have the
same places. -/
lemma Grouping.same_keyOf_iff {g : Grouping} {a b : Row}
    (ha : ∀ c ∈ g.groupColumns, (a.cell c).type? ≠ some .float64)
    (hb : ∀ c ∈ g.groupColumns, (b.cell c).type? ≠ some .float64) :
    (g.keyOf a).same (g.keyOf b) = true ↔
      ∀ c ∈ g.groupColumns, (a.cell c).place = (b.cell c).place := by
  rw [same_keyOf]
  exact forall₂_congr fun c hc => Cell.sameGroup_iff (ha c hc) (hb c hc)

end Confluence
