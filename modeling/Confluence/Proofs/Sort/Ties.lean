import Confluence.Proofs.Cell.Line
import Confluence.Proofs.Number.NotNaN
import Confluence.Proofs.Sort.Places

/-!
# Rows that tie are rows of one group

Values of one family other than NaN are always comparable, and values of two families are told
apart by their ranks. So rows tie in an order exactly if a grouping by the same columns puts them
into one group. Floats are no exception: where a decimal is rounded to be compared, it is rounded
for both.
-/

namespace Confluence

/-! ### Comparable values -/

/-- A decimal is comparable with every float but NaN. -/
lemma Decimal.exists_compareBinary64? (d : Decimal) {x : Binary64} (hx : x ≠ .nan) :
    ∃ o, d.compareBinary64? x = some o := by
  cases x with
  | nan => exact absurd rfl hx
  | infinity a => exact ⟨_, rfl⟩
  | finite a m k h =>
    obtain ⟨-, ho⟩ | ⟨-, ho⟩ | ⟨-, hcases⟩ := d.compareBinary64?_cases (x := .finite a m k h) rfl
    · exact ⟨_, ho⟩
    · exact ⟨_, ho⟩
    · obtain ⟨-, ho⟩ | ⟨-, ⟨-, ho⟩ | ⟨-, ho⟩ | ⟨-, -, ho⟩⟩ := hcases
      · exact ⟨_, ho⟩
      · exact ⟨_, ho⟩
      · exact ⟨_, ho⟩
      · exact ⟨_, ho.trans (Binary64.compare?_eq d.trim.toBinary64_ne_nan hx)⟩

namespace Cell

variable {a b : Cell}

/-- Values of one family other than NaN are comparable. -/
lemma exists_compare? (ha : a ≠ .float64 .nan) (hb : b ≠ .float64 .nan) (hn : a.isNull = false)
    (hr : a.familyRank = b.familyRank) : ∃ o, a.compare? b = some o := by
  obtain ⟨x, y, rfl, rfl⟩ | ⟨x, rfl, d, hd⟩ | ⟨y, rfl, d, hd⟩ | ⟨hfa, hfb⟩ :=
    cases_of_familyRank_eq hr
  · exact ⟨_, Binary64.compare?_eq (fun hx => ha (hx ▸ rfl)) fun hy => hb (hy ▸ rfl)⟩
  · obtain ⟨o, ho⟩ := d.exists_compareBinary64? fun hx => ha (hx ▸ rfl)
    exact ⟨o.swap, by rw [(compare_float_toDecimal? hd).1, ho, Option.map_some]⟩
  · obtain ⟨o, ho⟩ := d.exists_compareBinary64? fun hy => hb (hy ▸ rfl)
    exact ⟨o, by rw [(compare_float_toDecimal? hd).2, ho]⟩
  · exact ⟨_, compare?_eq_some hfa hfb hn hr⟩

/-- Ranked comparison ties values that are equal, and no others. -/
lemma compareRanked_eq_eq_iff (ha : a ≠ .float64 .nan) (hb : b ≠ .float64 .nan)
    (hn : a.isNull = false) : a.compareRanked b = .eq ↔ a.sameValue b = true := by
  rw [compareRanked, sameValue, decide_eq_true_eq]
  by_cases hr : a.familyRank = b.familyRank
  · obtain ⟨o, ho⟩ := exists_compare? ha hb hn hr
    rw [ho, Option.getD_some, Option.some.injEq]
  · rw [compare?_eq_none_of_familyRank_ne hr, Option.getD_none]
    exact iff_of_false (fun h => hr (Std.LawfulEqOrd.compare_eq_iff_eq.mp h)) (by simp)

/-- Cells of one group are values of one family, or both NULL. -/
lemma family?_eq_of_sameGroup (h : a.sameGroup b = true) : a.family? = b.family? := by
  cases hna : a.isNull <;> cases hnb : b.isNull <;> simp only [sameGroup, hna, hnb] at h
  · have hr : a.familyRank = b.familyRank := by
      by_contra hr
      rw [sameValue, compare?_eq_none_of_familyRank_ne hr] at h
      cases h
    cases a <;> cases b <;> first | rfl | simp [familyRank, family?] at hr
  · cases h
  · cases h
  · rw [isNull_eq_true_iff.mp hna, isNull_eq_true_iff.mp hnb]

end Cell

/-! ### Ties -/

/-- A term ties the cells that fall into one group, whatever its direction and the place of NULL. -/
lemma SortTerm.compareCells_eq_eq_iff {κ : Type} (t : SortTerm κ) {a b : Cell}
    (ha : a ≠ .float64 .nan) (hb : b ≠ .float64 .nan) :
    t.compareCells a b = .eq ↔ a.sameGroup b = true := by
  rw [compareCells, Cell.sameGroup]
  cases hna : a.isNull <;> cases b.isNull
  · rw [← Cell.compareRanked_eq_eq_iff ha hb hna]
    cases t.direction <;> simp
  · cases t.nulls <;> simp [NullPlacement.nullToValue]
  · cases t.nulls <;> simp [NullPlacement.nullToValue]
  · simp

namespace RowOrder

variable {o : RowOrder} {g : Grouping} {a b : Row}

lemma compareRows_eq_eq_iff :
    o.compareRows a b = .eq ↔
      ∀ t ∈ o, t.compareCells (a.cell t.column) (b.cell t.column) = .eq := by
  induction o with
  | nil => simp [compareRows]
  | cons t ts ih => rw [compareRows, Ordering.then_eq_eq, ih, List.forall_mem_cons]

/-- Rows without NaN in the sort columns tie exactly if a grouping by the same columns puts them
into one group, and then there are no values of different families in any of these columns. -/
theorem rows_tie_iff_same_group (hg : g.groupColumns = o.columns)
    (ha : ∀ t ∈ o, a.cell t.column ≠ .float64 .nan)
    (hb : ∀ t ∈ o, b.cell t.column ≠ .float64 .nan) :
    (o.compareRows a b = .eq ↔ (g.keyOf a).same (g.keyOf b) = true) ∧
      (o.compareRows a b = .eq →
        ∀ t ∈ o, (a.cell t.column).family? = (b.cell t.column).family?) := by
  have hties : o.compareRows a b = .eq ↔
      ∀ t ∈ o, (a.cell t.column).sameGroup (b.cell t.column) = true := by
    rw [compareRows_eq_eq_iff]
    exact forall₂_congr fun t ht => t.compareCells_eq_eq_iff (ha t ht) (hb t ht)
  refine ⟨?_, fun h t ht => Cell.family?_eq_of_sameGroup (hties.mp h t ht)⟩
  rw [hties, Grouping.same_keyOf, hg, columns, List.forall_mem_map]

/-- Rows of two lengths, sorted by one column twice and by a column that the first row does not
have: the decimal `0.1` ties with the float that it is rounded to. -/
theorem rows_tie_iff_same_group_of_rounded :
    let o : RowOrder := [⟨2, .desc, .first⟩, ⟨0, .asc, .last⟩, ⟨1, .asc, .first⟩, ⟨0, .desc, .last⟩]
    let g : Grouping := ⟨3, [2, 0, 1, 0], [], 4⟩
    let a : Row := [.decimal ⟨⟨1, by decide⟩, 1⟩, .text "a"]
    let b : Row := [.float64 (.ofBits 0x3fb999999999999a), .text "a", .null]
    g.groupColumns = o.columns ∧ (∀ t ∈ o, a.cell t.column ≠ .float64 .nan) ∧
      (∀ t ∈ o, b.cell t.column ≠ .float64 .nan) ∧
      (o.compareRows a b = .eq ↔ (g.keyOf a).same (g.keyOf b) = true) ∧
      (o.compareRows a b = .eq →
        ∀ t ∈ o, (a.cell t.column).family? = (b.cell t.column).family?) := by
  intro o g a b
  have hg : g.groupColumns = o.columns := rfl
  have ha : ∀ t ∈ o, a.cell t.column ≠ .float64 .nan := by decide +kernel
  have hb : ∀ t ∈ o, b.cell t.column ≠ .float64 .nan := by decide +kernel
  exact ⟨hg, ha, hb, rows_tie_iff_same_group hg ha hb⟩

end RowOrder

end Confluence
