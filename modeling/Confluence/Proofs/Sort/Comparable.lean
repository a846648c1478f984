import Confluence.Proofs.Sort.Families
import Confluence.Proofs.Sort.Ties

/-!
# Keys that a guard makes comparable

A fresh guard accepts a list of sort keys exactly if the values at each place of the keys are of one
family, so the order of the keys does not matter. Accepted keys without NaN are compared by value
alone: no two values are left that only their families could order.
-/

namespace Confluence

/-! ### Comparison by value -/

/-- The order of two cells under one term, if it does not rest on their families. -/
def SortTerm.compareCells? {κ : Type} (t : SortTerm κ) (a b : Cell) : Option Ordering :=
  match a.isNull, b.isNull with
  | true, true => some .eq
  | true, false => some t.nulls.nullToValue
  | false, true => some t.nulls.nullToValue.swap
  | false, false =>
    match t.direction with
    | .asc => a.compare? b
    | .desc => (a.compare? b).map .swap

/-- The order of two sort keys, if no pair of values that is looked at is ordered by family. -/
def RowOrder.compareKeys? : RowOrder → Row → Row → Option Ordering
  | [], _, _ => some .eq
  | t :: ts, a, b =>
    (t.compareCells? (a.headD .null) (b.headD .null)).bind fun
      | .eq => compareKeys? ts a.tail b.tail
      | r => some r

lemma SortTerm.compareCells_of_compareCells? {κ : Type} {t : SortTerm κ} {a b : Cell} {r : Ordering}
    (h : t.compareCells? a b = some r) : t.compareCells a b = r := by
  revert h
  rw [compareCells?, compareCells]
  cases a.isNull with
  | true =>
    cases b.isNull with
    | true =>
      rintro ⟨⟩
      rfl
    | false =>
      rintro ⟨⟩
      rfl
  | false =>
    cases b.isNull with
    | true =>
      rintro ⟨⟩
      rfl
    | false =>
      cases t.direction with
      | asc =>
        intro (h : a.compare? b = some r)
        show a.compareRanked b = r
        rw [Cell.compareRanked, h, Option.getD_some]
      | desc =>
        intro (h : (a.compare? b).map .swap = some r)
        obtain ⟨r', hr', rfl⟩ := Option.map_eq_some_iff.mp h
        show (a.compareRanked b).swap = r'.swap
        rw [Cell.compareRanked, hr', Option.getD_some]

/-- What cells have in common that can be compared by value: neither of them is NaN, and their
families are not different. -/
structure Cell.Comparable (a b : Cell) : Prop where
  left_ne_nan : a ≠ .float64 .nan
  right_ne_nan : b ≠ .float64 .nan
  family_eq {f g : Family} (ha : a.family? = some f) (hb : b.family? = some g) : f = g

lemma Cell.exists_family?_eq_some {c : Cell} (h : c.isNull = false) : ∃ f, c.family? = some f := by
  cases hf : c.family? with
  | none =>
    rw [family?_eq_none_iff.mp hf] at h
    cases h
  | some f => exact ⟨f, rfl⟩

lemma Cell.Comparable.exists_compareCells? {κ : Type} {a b : Cell} (h : a.Comparable b)
    (t : SortTerm κ) : ∃ r, t.compareCells? a b = some r := by
  rw [SortTerm.compareCells?]
  split
  next => exact ⟨_, rfl⟩
  next => exact ⟨_, rfl⟩
  next => exact ⟨_, rfl⟩
  next ha hb =>
    obtain ⟨f, hf⟩ := exists_family?_eq_some ha
    obtain ⟨g, hg⟩ := exists_family?_eq_some hb
    have hrank : a.familyRank = b.familyRank := by
      rw [familyRank, familyRank, hf, hg, h.family_eq hf hg]
    obtain ⟨r, hr⟩ := exists_compare? h.left_ne_nan h.right_ne_nan ha hrank
    cases t.direction with
    | asc => exact ⟨r, hr⟩
    | desc => exact ⟨r.swap, by rw [hr, Option.map_some]⟩

namespace RowOrder

variable {o : RowOrder} {a b : Row}

lemma cell_tail (r : Row) (k : Nat) : Row.cell r.tail k = r.cell (k + 1) := by
  cases r <;> rfl

lemma headD_eq_cell (r : Row) : r.headD .null = r.cell 0 := by
  cases r <;> rfl

lemma compareKeys_of_compareKeys? {r : Ordering} (h : o.compareKeys? a b = some r) :
    o.compareKeys a b = r := by
  induction o generalizing a b with
  | nil =>
    cases h
    rfl
  | cons t ts ih =>
    rw [compareKeys?] at h
    obtain ⟨r', hcells, h⟩ := Option.bind_eq_some_iff.mp h
    rw [compareKeys, SortTerm.compareCells_of_compareCells? hcells]
    cases r' with
    | eq => exact ih h
    | lt =>
      cases h
      rfl
    | gt =>
      cases h
      rfl

lemma exists_compareKeys? (h : ∀ k < o.length, (a.cell k).Comparable (b.cell k)) :
    ∃ r, o.compareKeys? a b = some r := by
  induction o generalizing a b with
  | nil => exact ⟨.eq, rfl⟩
  | cons t ts ih =>
    have htail : ∀ k < ts.length, (Row.cell a.tail k).Comparable (Row.cell b.tail k) := by
      intro k hk
      rw [cell_tail, cell_tail]
      exact h (k + 1) (Nat.succ_lt_succ hk)
    obtain ⟨r, hr⟩ := (h 0 (Nat.succ_pos ts.length)).exists_compareCells? t
    rw [compareKeys?, headD_eq_cell, headD_eq_cell, hr, Option.bind_some]
    cases r with
    | eq => exact ih htail
    | lt => exact ⟨.lt, rfl⟩
    | gt => exact ⟨.gt, rfl⟩

/-- Keys whose values are comparable are compared by them. -/
lemma compareKeys?_eq (h : ∀ k < o.length, (a.cell k).Comparable (b.cell k)) :
    o.compareKeys? a b = some (o.compareKeys a b) := by
  obtain ⟨r, hr⟩ := exists_compareKeys? h
  rw [hr, compareKeys_of_compareKeys? hr]

end RowOrder

/-! ### Accepted keys -/

namespace RowOrder

variable {o : RowOrder} {keys : List Row}

/-- Whether a fresh guard accepts sort keys, one after the other. -/
def AcceptsKeys (o : RowOrder) (keys : List Row) : Prop :=
  ((TypeGuard.new o).acceptAll keys).1 = .ok ()

/-- Whether the values at each place of the keys are of one family. -/
def UniformKeys (o : RowOrder) (keys : List Row) : Prop :=
  ∀ k < o.length, ∃ f, ∀ key ∈ keys, (key.cell k).isNull ∨ (key.cell k).family? = some f

/-- The order that compares the rows whose columns are the sort columns alone. -/
def ofKeys (o : RowOrder) : RowOrder := o.mapIdx fun k t => { t with column := k }

lemma keyOf_ofKeys {key : Row} (h : key.length = o.length) : o.ofKeys.keyOf key = key := by
  apply List.ext_getElem
  · simp [keyOf, ofKeys, h]
  · intro k hk hk'
    simp [keyOf, ofKeys, Row.cell, hk']

lemma new_ofKeys (o : RowOrder) : TypeGuard.new o.ofKeys = TypeGuard.new o := by
  simp [TypeGuard.new, ofKeys]

lemma uniform_ofKeys_iff : o.ofKeys.Uniform keys ↔ o.UniformKeys keys := by
  rw [Uniform, ofKeys, UniformKeys]
  constructor
  · intro h k hk
    exact h _ (List.mem_mapIdx.mpr ⟨k, hk, rfl⟩)
  · intro h t ht
    obtain ⟨k, hk, rfl⟩ := List.mem_mapIdx.mp ht
    exact h k hk

/-- A guard of keys is a guard of the rows that consist of the sort columns alone. -/
lemma acceptsKeys_iff (hfull : ∀ key ∈ keys, key.length = o.length) :
    o.AcceptsKeys keys ↔ o.UniformKeys keys := by
  have hkeys : keys.map o.ofKeys.keyOf = keys :=
    (List.map_congr_left fun key hkey => keyOf_ofKeys (hfull key hkey)).trans keys.map_id
  rw [← uniform_ofKeys_iff, ← TypeGuard.acceptAll_keyOf_eq_ok_iff, hkeys, new_ofKeys, AcceptsKeys]

lemma UniformKeys.comparable (hu : o.UniformKeys keys) {a b : Row} (ha : a ∈ keys)
    (hb : b ∈ keys) {k : Nat} (hk : k < o.length) (hna : a.cell k ≠ .float64 .nan)
    (hnb : b.cell k ≠ .float64 .nan) : (a.cell k).Comparable (b.cell k) := by
  obtain ⟨f, hf⟩ := hu k hk
  have hfamily {key : Row} (hkey : key ∈ keys) {g : Family} (hg : (key.cell k).family? = some g) :
      g = f := by
    rcases hf key hkey with hnull | hsome
    · rw [Cell.isNull_eq_true_iff.mp hnull] at hg
      cases hg
    · rw [hsome] at hg
      exact (Option.some.inj hg).symm
  exact ⟨hna, hnb, fun hga hgb => (hfamily ha hga).trans (hfamily hb hgb).symm⟩

lemma cell_ne_nan {key : Row} (h : ∀ c ∈ key, c ≠ .float64 .nan) (k : Nat) :
    key.cell k ≠ .float64 .nan := by
  rw [Row.cell, List.getD_eq_getElem?_getD]
  cases hc : key[k]? with
  | none => exact nofun
  | some c => exact h c (List.mem_of_getElem? hc)

/-- A fresh guard accepts sort keys exactly if the values at each place are of one family. So it
accepts them in every order or in none, and what it accepts is compared by value alone, but for
NaN. -/
theorem acceptsKeys_iff_comparable (hfull : ∀ key ∈ keys, key.length = o.length) :
    (o.AcceptsKeys keys ↔ o.UniformKeys keys) ∧
      (∀ keys', keys.Perm keys' → (o.AcceptsKeys keys ↔ o.AcceptsKeys keys')) ∧
      (o.AcceptsKeys keys → (∀ key ∈ keys, ∀ c ∈ key, c ≠ .float64 .nan) →
        ∀ a ∈ keys, ∀ b ∈ keys, o.compareKeys? a b = some (o.compareKeys a b)) := by
  refine ⟨acceptsKeys_iff hfull, ?_, ?_⟩
  · intro keys' hperm
    have hfull' : ∀ key ∈ keys', key.length = o.length :=
      fun key hkey => hfull key (hperm.mem_iff.mpr hkey)
    rw [acceptsKeys_iff hfull, acceptsKeys_iff hfull', UniformKeys, UniformKeys]
    simp only [hperm.mem_iff]
  · intro haccepts hnan a ha b hb
    have huniform := (acceptsKeys_iff hfull).mp haccepts
    apply compareKeys?_eq
    intro k hk
    exact huniform.comparable ha hb hk (cell_ne_nan (hnan a ha) k) (cell_ne_nan (hnan b hb) k)

/-- The places of these keys are filled at different times, and numbers of two types are of one
family. -/
theorem acceptsKeys_iff_comparable_of_gaps :
    let o : RowOrder := [⟨4, .asc, .first⟩, ⟨1, .desc, .last⟩]
    let keys : List Row := [[.null, .text "b"], [.int32 ⟨7, by decide⟩, .null],
      [.decimal ⟨⟨70, by decide⟩, 1⟩, .text "a"]]
    (∀ key ∈ keys, key.length = o.length) ∧ o.AcceptsKeys keys ∧ o.UniformKeys keys ∧
      o.AcceptsKeys keys.reverse ∧
      ∀ a ∈ keys, ∀ b ∈ keys, o.compareKeys? a b = some (o.compareKeys a b) := by
  intro o keys
  have hfull : ∀ key ∈ keys, key.length = o.length := by decide +kernel
  have haccepts : o.AcceptsKeys keys := by rfl
  obtain ⟨huniform, hperm, hcompare⟩ := acceptsKeys_iff_comparable hfull
  exact ⟨hfull, haccepts, huniform.mp haccepts,
    (hperm keys.reverse keys.reverse_perm.symm).mp haccepts,
    hcompare haccepts (by decide +kernel)⟩

end RowOrder

end Confluence
