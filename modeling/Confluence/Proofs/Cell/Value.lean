import Confluence.Proofs.Cell.Key
import Confluence.Proofs.Number.Rounding
import Mathlib.Order.WithBot

/-!
# Numbers are ordered by value

Integers and decimals stand for rational numbers and are compared as these, whatever their types
and scales; a decimal without trailing zeros is the only one of its number. Floats stand for rational numbers or for one of the two infinities, and an integer is
compared with a float by value too. One pair is an exception: the float `-2^127` counts as below
every decimal, the least integer of 128 bits included, although these two are equal.
-/

namespace Confluence

/-! ### Values -/

/-- The number that an integer or a decimal stands for. -/
def Cell.exactValue? : Cell → Option ℚ
  | .int32 n => some n.val
  | .int64 n => some n.val
  | .decimal d => some d.value
  | _ => none

/-- The rational numbers and both infinities. -/
abbrev ExtendedRat := WithBot (WithTop ℚ)

/-- A rational number among them. -/
def ExtendedRat.ofRat (q : ℚ) : ExtendedRat := ((q : WithTop ℚ) : WithBot (WithTop ℚ))

/-- The number or the infinity that a float stands for; NaN stands for nothing. -/
def Binary64.value? : Binary64 → Option ExtendedRat
  | .nan => none
  | .infinity negative => some (if negative then ⊥ else ⊤)
  | .finite negative m k _ =>
    some (.ofRat ((if negative then -1 else 1) * (m * 2 ^ k) / 2 ^ 1074))

/-- Whole numbers of a unit are ordered as the numbers that they stand for. -/
lemma compare_div {p : Nat} (hp : 0 < p) (m n : ℤ) :
    Ord.compare ((m : ℚ) / p) ((n : ℚ) / p) = Ord.compare m n := by
  have hpos : (0 : ℚ) < p := by exact_mod_cast hp
  have hlt {m n : ℤ} (h : m < n) : (m : ℚ) / p < n / p :=
    (div_lt_div_iff_of_pos_right hpos).mpr (by exact_mod_cast h)
  rcases lt_trichotomy m n with h | rfl | h
  · rw [compare_lt_iff_lt.mpr h, compare_lt_iff_lt.mpr (hlt h)]
  · rw [compare_eq_iff_eq.mpr rfl, compare_eq_iff_eq.mpr rfl]
  · rw [compare_gt_iff_gt.mpr h, compare_gt_iff_gt.mpr (hlt h)]

namespace ExtendedRat

lemma ofRat_lt_top (q : ℚ) : ofRat q < ⊤ := WithBot.coe_lt_coe.mpr (WithTop.coe_lt_top q)

lemma bot_lt_ofRat (q : ℚ) : ⊥ < ofRat q := WithBot.bot_lt_coe _

lemma compare_ofRat (q r : ℚ) : Ord.compare (ofRat q) (ofRat r) = Ord.compare q r := by
  have hmono : StrictMono ofRat := WithBot.coe_strictMono.comp WithTop.coe_strictMono
  rw [← cmp_eq_compare, ← cmp_eq_compare, hmono.cmp_map_eq]

end ExtendedRat

/-! ### Exact numbers -/

namespace Decimal

lemma value_eq_div (d : Decimal) : d.value = (d.units : ℚ) / tenTo 255 := by
  rw [eq_div_iff (tenTo_cast_ne_zero 255), value_mul_of_scale_le (Nat.le_of_lt_succ d.scale.isLt)]
  rfl

/-- Decimals are compared as the numbers that they stand for. -/
lemma compare_eq_compare_value (a b : Decimal) : a.compare b = Ord.compare a.value b.value := by
  rw [compare_eq_compare_units, value_eq_div, value_eq_div, compare_div (tenTo_pos 255)]

lemma value_eq_mantissa_div (d : Decimal) :
    d.value = (d.mantissa.val : ℚ) / 10 ^ d.scale.val := by
  simp [value, tenTo]

/-- Taking off trailing zeros is a canonical form. It keeps the number that a decimal stands for,
adds no places, and changes nothing when it is done again; and what is left of two decimals is the
same mantissa with the same scale exactly if they are compared as equal. -/
theorem trim_is_canonical (d e : Decimal) :
    (d.trim.mantissa.val : ℚ) / 10 ^ d.trim.scale.val = d.mantissa.val / 10 ^ d.scale.val ∧
      d.trim.scale ≤ d.scale ∧ d.trim.trim = d.trim ∧
      (d.compare e = .eq ↔
        d.trim.mantissa.val = e.trim.mantissa.val ∧ d.trim.scale = e.trim.scale) := by
  refine ⟨?_, d.scale_trim_le, d.trim_trim, ?_⟩
  · rw [← value_eq_mantissa_div, ← value_eq_mantissa_div, value_eq_div, units_trim, value_eq_div]
  · rw [compare_eq_eq_iff_trim_eq]
    constructor
    · intro h
      rw [h]
      exact ⟨rfl, rfl⟩
    · rintro ⟨hmantissa, hscale⟩
      exact eq_of_mantissa_eq hmantissa hscale

@[simp] lemma value_ofSigned {w : Nat} (n : Signed w) (h : w ≤ 128) :
    (ofSigned n h).value = n.val := by
  simp [value, ofSigned]

end Decimal

namespace Cell

variable {u v w : Cell} {x y z : ℚ}

lemma exists_toDecimal?_of_exactValue? (h : v.exactValue? = some x) :
    ∃ d, v.toDecimal? = some d ∧ d.value = x := by
  cases v <;> cases h <;> exact ⟨_, rfl, by simp⟩

lemma compare?_of_toDecimal? {d e : Decimal} (hu : u.toDecimal? = some d)
    (hv : v.toDecimal? = some e) : u.compare? v = some (d.compare e) := by
  cases u <;> cases hu <;> cases v <;> cases hv <;> rfl

/-- Exact numbers are compared by value. -/
lemma compare?_of_exactValue? (hu : u.exactValue? = some x) (hv : v.exactValue? = some y) :
    u.compare? v = some (Ord.compare x y) := by
  obtain ⟨d, hd, rfl⟩ := exists_toDecimal?_of_exactValue? hu
  obtain ⟨e, he, rfl⟩ := exists_toDecimal?_of_exactValue? hv
  rw [compare?_of_toDecimal? hd he, d.compare_eq_compare_value]

/-- Whether a cell is compared as equal to another one or as below it. -/
def AtMost (u v : Cell) : Prop := ∃ o, u.compare? v = some o ∧ o.isLE = true

lemma atMost_iff (hu : u.exactValue? = some x) (hv : v.exactValue? = some y) :
    u.AtMost v ↔ x ≤ y := by
  simp [AtMost, compare?_of_exactValue? hu hv, Ordering.isLE_iff_ne_gt, compare_le_iff_le]

/-- Decimals are compared as the fractions that they stand for, and so are integers and decimals of
any types. So their order is a total order of values: it compares any two of them, it is
transitive, and two numbers that are not above each other have one value. -/
theorem exact_numbers_ordered_by_value (a b : Decimal) (hu : u.exactValue? = some x)
    (hv : v.exactValue? = some y) (hw : w.exactValue? = some z) :
    a.compare b = Ord.compare ((a.mantissa.val : ℚ) / 10 ^ a.scale.val)
        ((b.mantissa.val : ℚ) / 10 ^ b.scale.val) ∧
      u.compare? v = some (Ord.compare x y) ∧
      (u.AtMost v ∨ v.AtMost u) ∧ (u.AtMost v → v.AtMost w → u.AtMost w) ∧
      (u.AtMost v → v.AtMost u → x = y) := by
  rw [← Decimal.value_eq_mantissa_div, ← Decimal.value_eq_mantissa_div, atMost_iff hu hv,
    atMost_iff hv hu, atMost_iff hv hw, atMost_iff hu hw]
  exact ⟨a.compare_eq_compare_value b, compare?_of_exactValue? hu hv, le_total x y, le_trans,
    le_antisymm⟩

/-- Decimals whose scales are farther apart than any mantissa reaches, at both ends of 128 bits. -/
theorem exact_numbers_ordered_by_value_at_distant_scales :
    let a : Decimal := ⟨⟨-2 ^ 127, by decide⟩, 255⟩
    let b : Decimal := ⟨⟨2 ^ 127 - 1, by decide⟩, 0⟩
    let u : Cell := .decimal ⟨⟨-3, by decide⟩, 60⟩
    let v : Cell := .int32 ⟨0, by decide⟩
    let w : Cell := .int64 ⟨2 ^ 63 - 1, by decide⟩
    u.exactValue? = some (-3 / 10 ^ 60) ∧ v.exactValue? = some 0 ∧
      w.exactValue? = some (2 ^ 63 - 1) ∧
      a.compare b = Ord.compare ((a.mantissa.val : ℚ) / 10 ^ a.scale.val)
        ((b.mantissa.val : ℚ) / 10 ^ b.scale.val) ∧
      u.compare? v = some (Ord.compare (-3 / 10 ^ 60 : ℚ) 0) ∧
      (u.AtMost v ∨ v.AtMost u) ∧ (u.AtMost v → v.AtMost w → u.AtMost w) ∧
      (u.AtMost v → v.AtMost u → (-3 / 10 ^ 60 : ℚ) = 0) := by
  intro a b u v w
  have hu : u.exactValue? = some (-3 / 10 ^ 60) := by decide +kernel
  have hv : v.exactValue? = some 0 := by decide +kernel
  have hw : w.exactValue? = some (2 ^ 63 - 1) := by decide +kernel
  exact ⟨hu, hv, hw, exact_numbers_ordered_by_value a b hu hv hw⟩

end Cell

/-! ### Integers and floats -/

namespace Binary64

/-- The value of a finite float is its number of units. -/
lemma value?_of_units? {x : Binary64} {u : ℤ} (h : x.units? = some u) :
    x.value? = some (.ofRat ((u : ℚ) / unitsPerOne)) := by
  cases x with
  | nan => cases h
  | infinity a => cases h
  | finite a m k hc =>
    have hpower (k : Nat) : (twoTo k : ℚ) = 2 ^ k := Nat.cast_pow 2 k
    cases h
    rw [value?, unitsPerOne, hpower]
    cases a <;> simp [hpower]

end Binary64

namespace Decimal

open Binary64

variable {d : Decimal} {i : Signed 128} {n u : ℤ}

/-- A decimal whose value is an integer is that integer, and it fits in 128 bits. -/
lemma exists_integer?_of_value (h : d.value = n) : ∃ i, d.integer? = some i ∧ i.val = n := by
  have hten : (0 : ℤ) < (tenTo 255 : Nat) := by exact_mod_cast tenTo_pos 255
  have hunits : d.units = n * (tenTo 255 : Nat) := by
    rw [value_eq_div, div_eq_iff (tenTo_cast_ne_zero 255)] at h
    exact_mod_cast h
  have hbounds := d.units_bounds
  rw [hunits, ← Int.neg_mul] at hbounds
  have hfits : Signed.Fits 128 n :=
    ⟨Int.le_of_mul_le_mul_right hbounds.1 hten, Int.lt_of_mul_lt_mul_right hbounds.2 hten.le⟩
  exact ⟨⟨n, hfits⟩, integer?_eq_some_iff.mpr hunits, rfl⟩

/-- An integer is placed against the units of a float by value, unless both are the lower end. -/
lemma compare_placeOfUnits_of_integer? (hd : d.integer? = some i)
    (hend : i.val = -(twoTo 127 : ℤ) → u ≠ i.val * unitsPerOne) :
    Ord.compare (d.units * unitsPerOne) (placeOfUnits u) =
      Ord.compare (i.val * unitsPerOne) u := by
  by_cases hu : u ≤ -((twoTo 127 * unitsPerOne : Nat) : ℤ)
  · have hgt := (d.compare_place_of_le (u := -u) (by omega)).2
    rw [neg_neg] at hgt
    have hle : -(twoTo 127 : ℤ) * unitsPerOne ≤ i.val * unitsPerOne :=
      Int.mul_le_mul_of_nonneg_right i.fits.1 (Int.natCast_nonneg _)
    rw [Int.natCast_mul, ← Int.neg_mul] at hu
    have hne : u ≠ i.val * unitsPerOne := by
      rintro rfl
      have hunit : (0 : ℤ) < unitsPerOne := by exact_mod_cast twoTo_pos 1074
      exact hend (le_antisymm (Int.le_of_mul_le_mul_right hu hunit) i.fits.1) rfl
    rw [hgt, compare_gt_iff_gt.mpr (lt_of_le_of_ne (hu.trans hle) hne)]
  · have hten : (0 : ℤ) < (tenTo 255 : Nat) := by exact_mod_cast tenTo_pos 255
    rw [placeOfUnits, if_neg hu, integer?_eq_some_iff.mp hd, Int.mul_right_comm,
      compare_mul_right hten]

/-- An integer and a float are compared by value, unless both are the lower end. -/
lemma compareBinary64?_of_integer? {x : Binary64} {y : ExtendedRat} (hd : d.integer? = some i)
    (hx : x.value? = some y) (hend : i.val = -(twoTo 127 : ℤ) → y ≠ .ofRat i.val) :
    d.compareBinary64? x = some (Ord.compare (ExtendedRat.ofRat i.val) y) := by
  have hnan : x ≠ .nan := by
    rintro rfl
    cases hx
  rw [compareBinary64?_eq hnan (not_sharesUnit_of_integer? hd x)]
  cases x with
  | nan => exact absurd rfl hnan
  | infinity a =>
    rw [compare_place_infinity]
    cases hx
    cases a with
    | false => rw [if_neg Bool.false_ne_true, if_neg Bool.false_ne_true,
        compare_lt_iff_lt.mpr (ExtendedRat.ofRat_lt_top _)]
    | true => rw [if_pos rfl, if_pos rfl, compare_gt_iff_gt.mpr (ExtendedRat.bot_lt_ofRat _)]
  | finite a m k hc =>
    obtain ⟨u, hu⟩ : ∃ u, (finite a m k hc).units? = some u := ⟨_, rfl⟩
    have hplace : place (finite a m k hc) = placeOfUnits u := by
      cases hu
      rfl
    obtain rfl := Option.some.inj (hx.symm.trans (value?_of_units? hu))
    have hpos : 0 < unitsPerOne := twoTo_pos 1074
    have hunit : (unitsPerOne : ℚ) ≠ 0 := by exact_mod_cast hpos.ne'
    have hi : (i.val : ℚ) = ((i.val * unitsPerOne : ℤ) : ℚ) / unitsPerOne := by
      rw [Int.cast_mul, Int.cast_natCast, mul_div_cancel_right₀ _ hunit]
    rw [hi] at hend ⊢
    rw [hplace, compare_placeOfUnits_of_integer? hd fun he hu => hend he (by rw [hu]),
      ExtendedRat.compare_ofRat, compare_div hpos]

end Decimal

namespace Cell

variable {v : Cell} {x : Binary64} {y : ExtendedRat} {n : ℤ}

/-- An integer of any type and a float other than NaN are compared by value, whichever comes first,
unless both are `-2^127`. So they are equal exactly if the float is that integer. -/
theorem integer_and_float_ordered_by_value (hv : v.exactValue? = some (n : ℚ))
    (hx : x.value? = some y) (hend : ¬ (n = -2 ^ 127 ∧ y = .ofRat n)) :
    v.compare? (.float64 x) = some (Ord.compare (ExtendedRat.ofRat n) y) ∧
      (Cell.float64 x).compare? v = some (Ord.compare y (ExtendedRat.ofRat n)) ∧
      (v.compare? (.float64 x) = some .eq ↔ y = .ofRat n) ∧
      ((Cell.float64 x).compare? v = some .eq ↔ y = .ofRat n) := by
  obtain ⟨d, hd, hvalue⟩ := exists_toDecimal?_of_exactValue? hv
  obtain ⟨i, hi, rfl⟩ := Decimal.exists_integer?_of_value hvalue
  have hcompare := Decimal.compareBinary64?_of_integer? hi hx fun he hy => hend ⟨he, hy⟩
  obtain ⟨hright, hleft⟩ := compare_float_toDecimal? (x := x) hd
  rw [hleft, hright, hcompare, Option.map_some, ← Std.OrientedOrd.eq_swap]
  refine ⟨rfl, rfl, ?_, ?_⟩
  · rw [Option.some.injEq, compare_eq_iff_eq, eq_comm]
  · rw [Option.some.injEq, compare_eq_iff_eq]

/-- The float `2^53` and the next integer, written with two places: rounded, they would be equal. -/
theorem integer_and_float_ordered_by_value_beyond_significand :
    let v : Cell := .decimal ⟨⟨900719925474099300, by decide⟩, 2⟩
    let x : Binary64 := .ofBits 0x4340000000000000
    let n : ℤ := 9007199254740993
    let y : ExtendedRat := .ofRat 9007199254740992
    v.exactValue? = some (n : ℚ) ∧ x.value? = some y ∧ ¬ (n = -2 ^ 127 ∧ y = .ofRat n) ∧
      v.compare? (.float64 x) = some (Ord.compare (ExtendedRat.ofRat n) y) ∧
      (Cell.float64 x).compare? v = some (Ord.compare y (ExtendedRat.ofRat n)) ∧
      (v.compare? (.float64 x) = some .eq ↔ y = .ofRat n) ∧
      ((Cell.float64 x).compare? v = some .eq ↔ y = .ofRat n) := by
  intro v x n y
  have hv : v.exactValue? = some (n : ℚ) := by decide +kernel
  have hx : x.value? = some y := by decide +kernel
  have hend : ¬ (n = -2 ^ 127 ∧ y = .ofRat n) := by decide
  exact ⟨hv, hx, hend, integer_and_float_ordered_by_value hv hx hend⟩

/-- The least integer of 128 bits is above the float that is equal to it. -/
theorem lower_end_above_equal_float :
    let v : Cell := .decimal ⟨⟨-2 ^ 127, by decide⟩, 0⟩
    let x : Binary64 := .ofBits 0xc7e0000000000000
    let n : ℤ := -2 ^ 127
    v.exactValue? = some (n : ℚ) ∧ x.value? = some (.ofRat n) ∧
      v.compare? (.float64 x) = some .gt ∧ (Cell.float64 x).compare? v = some .lt ∧
      Ord.compare (ExtendedRat.ofRat n) (ExtendedRat.ofRat n) = .eq := by
  decide +kernel

end Cell

end Confluence
