import Confluence.Group.Key
import Confluence.Sort.Order
import Mathlib.Tactic.Ring

/-!
# Places of cells

Cells that are no floats have a place on one line: first by family, then by exact value. Ranked
comparison is comparison of places and sameness in a group is equality of places, so that both
inherit the laws of the line.
-/

namespace Confluence

/-! ### Decimals -/

/-- The value of a decimal in units of its last possible place. -/
def Decimal.units (d : Decimal) : Int := d.mantissa.val * (tenTo (255 - d.scale.val) : Nat)

namespace Decimal

@[simp] lemma units_ofSigned {w : Nat} (n : Signed w) (h : w ≤ 128) :
    (ofSigned n h).units = n.val * (tenTo 255 : Nat) := rfl

lemma compare_mul_right {p : Int} (hp : 0 < p) (x y : Int) :
    Ord.compare (x * p) (y * p) = Ord.compare x y := by
  rcases lt_trichotomy x y with h | rfl | h
  · rw [compare_lt_iff_lt.mpr h, compare_lt_iff_lt.mpr (Int.mul_lt_mul_of_pos_right h hp)]
  · simp
  · rw [compare_gt_iff_gt.mpr h, compare_gt_iff_gt.mpr (Int.mul_lt_mul_of_pos_right h hp)]

/-- A power of ten that does not fit in a mantissa is beyond both of its ends. -/
lemma bound_lt_tenTo {n : Nat} (h : ¬ Signed.Fits 128 (tenTo n : Nat)) :
    (Signed.bound 128 : Int) < (tenTo n : Nat) := by
  have h38 : tenTo 38 < Signed.bound 128 := by decide
  have h39 : Signed.bound 128 < tenTo 39 := by decide
  by_cases hn : n ≤ 38
  · have hle : tenTo n ≤ tenTo 38 := tenTo_le_tenTo hn
    exact absurd (Signed.fits_of_natAbs_lt (by omega)) h
  · have hle : tenTo 39 ≤ tenTo n := tenTo_le_tenTo (by omega)
    omega

lemma rescale?_eq_some {n m : Signed 128} {d : Nat} (h : rescale? n d = some m) :
    m.val = n.val * (tenTo d : Nat) := by
  rw [rescale?] at h
  split_ifs at h with h0 hp
  · cases h
    simp [h0]
  · exact Signed.ofInt?_eq_some_iff.mp h

/-- A mantissa that cannot be rescaled leaves the range of mantissas on the side of its sign. -/
lemma rescale?_eq_none {n : Signed 128} {d : Nat} (h : rescale? n d = none) :
    (0 < n.val ∧ (Signed.bound 128 : Int) ≤ n.val * (tenTo d : Nat)) ∨
      (n.val < 0 ∧ n.val * (tenTo d : Nat) < -(Signed.bound 128 : Int)) := by
  have hpos : (0 : Int) < (tenTo d : Nat) := by exact_mod_cast tenTo_pos d
  rw [rescale?] at h
  split_ifs at h with h0 hp
  · rw [Signed.ofInt?_eq_none_iff, Signed.Fits] at h
    rcases lt_or_gt_of_ne h0 with hn | hn
    · have : n.val * (tenTo d : Nat) < 0 := Int.mul_neg_of_neg_of_pos hn hpos
      exact Or.inr ⟨hn, by omega⟩
    · have : 0 < n.val * (tenTo d : Nat) := Int.mul_pos hn hpos
      exact Or.inl ⟨hn, by omega⟩
  · have hb := bound_lt_tenTo hp
    rcases lt_or_gt_of_ne h0 with hn | hn
    · have : n.val * (tenTo d : Nat) ≤ -1 * (tenTo d : Nat) :=
        Int.mul_le_mul_of_nonneg_right (by omega) hpos.le
      exact Or.inr ⟨hn, by omega⟩
    · have : 1 * (tenTo d : Nat) ≤ n.val * (tenTo d : Nat) :=
        Int.mul_le_mul_of_nonneg_right (by omega) hpos.le
      exact Or.inl ⟨hn, by omega⟩

/-- At the finer of two scales the coarser mantissa is multiplied by a power of ten. -/
lemma units_eq_of_scale_le {a b : Decimal} (h : b.scale ≤ a.scale) :
    b.units = b.mantissa.val * (tenTo (a.scale.val - b.scale.val) : Nat) *
      (tenTo (255 - a.scale.val) : Nat) := by
  have ha := a.scale.isLt
  have hle : b.scale.val ≤ a.scale.val := h
  rw [units, show 255 - b.scale.val = (a.scale.val - b.scale.val) + (255 - a.scale.val) by omega,
    tenTo_add, Int.natCast_mul, Int.mul_assoc]

/-- Against a mantissa that overflows at the other scale, the sign decides. -/
lemma compare_of_rescale?_eq_none {a n : Signed 128} {d : Nat} (h : rescale? n d = none) :
    Ord.compare a.val (n.val * (tenTo d : Nat)) = Ord.compare 0 n.val := by
  have ha := a.fits
  rw [Signed.Fits] at ha
  rcases rescale?_eq_none h with ⟨hn, hb⟩ | ⟨hn, hb⟩
  · rw [compare_lt_iff_lt.mpr hn, compare_lt_iff_lt.mpr (by omega)]
  · rw [compare_gt_iff_gt.mpr hn, compare_gt_iff_gt.mpr (by omega)]

/-- Comparison of decimals is the order of their values, whatever their scales. -/
lemma compare_eq_compare_units (a b : Decimal) : a.compare b = Ord.compare a.units b.units := by
  have hpos (d : Decimal) : (0 : Int) < (tenTo (255 - d.scale.val) : Nat) := by
    exact_mod_cast tenTo_pos _
  rw [compare]
  split_ifs with heq hlt
  · rw [units, units, heq, compare_mul_right (hpos b)]
  · rw [units_eq_of_scale_le (Fin.le_of_lt hlt), units, compare_mul_right (hpos a)]
    cases h : rescale? b.mantissa (a.scale.val - b.scale.val) with
    | some m => simp only [rescale?_eq_some h]
    | none => simp only [compare_of_rescale?_eq_none h]
  · have hle : a.scale ≤ b.scale := Fin.not_lt.mp hlt
    rw [units_eq_of_scale_le hle, units, compare_mul_right (hpos b)]
    cases h : rescale? a.mantissa (b.scale.val - a.scale.val) with
    | some m => simp only [rescale?_eq_some h]
    | none =>
      have := compare_of_rescale?_eq_none (a := b.mantissa) h
      rw [Std.OrientedOrd.eq_swap, Std.OrientedOrd.eq_swap (b := b.mantissa.val), this]

end Decimal

/-! ### Places -/

/-- A place on the line: the family, and a value of the family in the field that it uses. -/
structure CellPlace where
  rank : Nat
  number : Int := 0
  text : List Char := []
  bytes : List UInt8 := []
deriving DecidableEq

namespace CellPlace

/-- The order of the line. -/
def compare : CellPlace → CellPlace → Ordering :=
  compareLex (compareOn rank)
    (compareLex (compareOn number) (compareLex (compareOn text) (compareOn bytes)))

instance : Std.TransCmp compare :=
  inferInstanceAs (Std.TransCmp (compareLex (compareOn rank)
    (compareLex (compareOn number) (compareLex (compareOn text) (compareOn bytes)))))

instance : Std.LawfulEqCmp compare where
  compare_self := Std.ReflCmp.compare_self
  eq_of_compare {p q} h := by
    simp only [compare, compareLex_eq_eq, compareOn, Std.LawfulEqOrd.compare_eq_iff_eq] at h
    cases p
    cases q
    simp_all

end CellPlace

namespace Cell

/-- The place of a cell that is no float. -/
def place : Cell → CellPlace
  | .null => { rank := 0 }
  | .boolean b => { rank := 1, number := b.toNat }
  | .int32 n => { rank := 2, number := n.val * (tenTo 255 : Nat) }
  | .int64 n => { rank := 2, number := n.val * (tenTo 255 : Nat) }
  | .decimal d => { rank := 2, number := d.units }
  | .float64 _ => { rank := 2 }
  | .text s => { rank := 3, text := s.toList }
  | .date n => { rank := 4, number := n.val }
  | .timestamp n => { rank := 5, number := n.val }
  | .bytes bs => { rank := 6, bytes := bs }

lemma familyRank_eq_rank_place (c : Cell) : c.familyRank = c.place.rank := by
  cases c <;> rfl

lemma isNull_iff_familyRank_eq_zero (c : Cell) : c.isNull = true ↔ c.familyRank = 0 := by
  cases c <;> simp [isNull, familyRank, family?]

lemma familyRank_eq_iff {a b : Cell} : a.familyRank = b.familyRank ↔ a.family? = b.family? := by
  constructor
  · intro h
    cases a <;> cases b <;> first | rfl | simp [familyRank, family?] at h
  · intro h
    rw [familyRank, familyRank, h]

/-- The place of a cell shows its family. -/
lemma family?_eq_of_place_eq {a b : Cell} (h : a.place = b.place) : a.family? = b.family? := by
  rw [← familyRank_eq_iff, familyRank_eq_rank_place, familyRank_eq_rank_place, h]

/-- Cells of different families are not ordered by value. -/
lemma compare?_eq_none_of_familyRank_ne {a b : Cell} (h : a.familyRank ≠ b.familyRank) :
    a.compare? b = none := by
  cases a <;> cases b <;> first | rfl | exact absurd rfl h

lemma compare_toNat (a b : Bool) : Ord.compare a b = Ord.compare (a.toNat : Int) (b.toNat : Int) := by
  cases a <;> cases b <;> rfl

/-- Values of one family that are no floats are ordered by value, and that is the order of their
places. -/
lemma compare?_eq_some {a b : Cell} (ha : a.type? ≠ some .float64) (hb : b.type? ≠ some .float64)
    (hn : a.isNull = false) (hr : a.familyRank = b.familyRank) :
    a.compare? b = some (CellPlace.compare a.place b.place) := by
  cases a <;> cases b <;> first
    | exact absurd rfl ha
    | exact absurd rfl hb
    | exact absurd hn (by decide)
    | (simp [familyRank, family?] at hr; done)
    | simp [compare?, compareNumeric?, family?, toDecimal?, place, CellPlace.compare, compareLex,
        compareOn, Decimal.compare_eq_compare_units, compare_toNat]

lemma isNull_eq_of_familyRank_eq {a b : Cell} (h : a.familyRank = b.familyRank) :
    a.isNull = b.isNull := by
  rw [Bool.eq_iff_iff, isNull_iff_familyRank_eq_zero, isNull_iff_familyRank_eq_zero, h]

/-! ### Cells compared by places -/

/-- Two cells that are compared as two places are: the places show the families, and values of one
family are ordered as the places. -/
structure ComparesAs (a b : Cell) (p q : CellPlace) : Prop where
  rank_left : p.rank = a.familyRank
  rank_right : q.rank = b.familyRank
  eq_of_null : a = .null → b = .null → p = q
  compare?_eq : a.isNull = false → a.familyRank = b.familyRank →
    a.compare? b = some (CellPlace.compare p q)

variable {a b : Cell} {p q : CellPlace}

lemma compare_of_rank_ne (h : p.rank ≠ q.rank) :
    CellPlace.compare p q = Ord.compare p.rank q.rank := by
  rw [CellPlace.compare, compareLex, compareOn]
  cases hc : Ord.compare p.rank q.rank with
  | eq => exact absurd (Std.LawfulEqOrd.compare_eq_iff_eq.mp hc) h
  | lt | gt => rfl

/-- Ranked comparison is comparison of the places. -/
lemma ComparesAs.compareRanked_eq (h : ComparesAs a b p q) :
    a.compareRanked b = CellPlace.compare p q := by
  rw [compareRanked]
  by_cases hr : a.familyRank = b.familyRank
  · cases hn : a.isNull with
    | false => rw [h.compare?_eq hn hr, Option.getD_some]
    | true =>
      have hb := (isNull_eq_of_familyRank_eq hr).symm.trans hn
      obtain rfl := isNull_eq_true_iff.mp hn
      obtain rfl := isNull_eq_true_iff.mp hb
      obtain rfl := h.eq_of_null rfl rfl
      exact Std.ReflCmp.compare_self.symm
  · rw [compare?_eq_none_of_familyRank_ne hr, Option.getD_none, ← h.rank_left, ← h.rank_right,
      compare_of_rank_ne (by rwa [h.rank_left, h.rank_right])]

/-- Two cells fall into one group if they have one place. -/
lemma ComparesAs.sameGroup_iff (h : ComparesAs a b p q) : a.sameGroup b = true ↔ p = q := by
  by_cases hr : a.familyRank = b.familyRank
  · have hnull := isNull_eq_of_familyRank_eq hr
    cases hn : a.isNull with
    | false => simp [sameGroup, hn, ← hnull, sameValue, h.compare?_eq hn hr]
    | true =>
      obtain rfl := isNull_eq_true_iff.mp hn
      obtain rfl := isNull_eq_true_iff.mp (hnull.symm.trans hn)
      exact ⟨fun _ => h.eq_of_null rfl rfl, fun _ => rfl⟩
  · have hne : p ≠ q := by
      rintro rfl
      exact hr (h.rank_left.symm.trans h.rank_right)
    rw [sameGroup]
    cases ha : a.isNull <;> cases hb : b.isNull <;>
      simp_all [sameValue, compare?_eq_none_of_familyRank_ne, isNull_iff_familyRank_eq_zero]

/-- Cells that are no floats are compared by their places. -/
lemma comparesAs_place (ha : a.type? ≠ some .float64) (hb : b.type? ≠ some .float64) :
    ComparesAs a b a.place b.place where
  rank_left := (familyRank_eq_rank_place a).symm
  rank_right := (familyRank_eq_rank_place b).symm
  eq_of_null ha hb := by rw [ha, hb]
  compare?_eq := compare?_eq_some ha hb

/-- Two cells that are no floats fall into one group if they have one place. -/
lemma sameGroup_iff (ha : a.type? ≠ some .float64) (hb : b.type? ≠ some .float64) :
    a.sameGroup b = true ↔ a.place = b.place :=
  (comparesAs_place ha hb).sameGroup_iff

/-! ### Exact numbers -/

variable {v : Cell} {d : Decimal}

lemma exists_toDecimal? (hv : v.type? ≠ some .float64) (h : v.family? = some .numeric) :
    ∃ d, v.toDecimal? = some d := by
  cases v with
  | int32 n => exact ⟨_, rfl⟩
  | int64 n => exact ⟨_, rfl⟩
  | decimal d => exact ⟨_, rfl⟩
  | float64 x => exact absurd rfl hv
  | _ => cases h

lemma family?_of_toDecimal? (h : v.toDecimal? = some d) : v.family? = some .numeric := by
  cases v with
  | int32 n => rfl
  | int64 n => rfl
  | decimal d => rfl
  | _ => cases h

lemma isNull_of_toDecimal? (h : v.toDecimal? = some d) : v.isNull = false := by
  cases v with
  | null => cases h
  | _ => rfl

lemma type?_ne_of_toDecimal? (h : v.toDecimal? = some d) : v.type? ≠ some .float64 := by
  cases v with
  | float64 x => cases h
  | _ => simp [type?]

/-- The place of an exact number is its value. -/
lemma place_of_toDecimal? (h : v.toDecimal? = some d) :
    v.place = { rank := 2, number := d.units } := by
  cases v with
  | int32 n =>
    cases h
    rfl
  | int64 n =>
    cases h
    rfl
  | decimal d =>
    cases h
    rfl
  | _ => cases h

end Cell

end Confluence
