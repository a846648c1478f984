import Confluence.Proofs.Cell.Place

/-!
# One line for exact numbers and floats

Floats have a place on the line of exact numbers. Wherever a decimal is not compared with a float
by its rounded value, the order of numeric cells is the order of their places on this line. The
rounded value is used only where both lie strictly between the same two integers.
-/

namespace Confluence

/-! ### Decimals and floats -/

namespace Decimal

/-- Whether a float is no integer and a decimal lies strictly between the same two integers. -/
def SharesUnit (d : Decimal) (x : Binary64) : Prop :=
  ∃ u ∈ x.units?, u / (Binary64.unitsPerOne : Int) * Binary64.unitsPerOne < u ∧
    u / (Binary64.unitsPerOne : Int) * (tenTo 255 : Nat) < d.units ∧
      d.units < (u / (Binary64.unitsPerOne : Int) + 1) * (tenTo 255 : Nat)

instance (d : Decimal) (x : Binary64) : Decidable (d.SharesUnit x) :=
  inferInstanceAs (Decidable (∃ u ∈ x.units?, _ ∧ _ ∧ _))

lemma tenTo_scale_mul (d : Decimal) :
    tenTo d.scale.val * tenTo (255 - d.scale.val) = tenTo 255 := by
  rw [← tenTo_add, Nat.add_sub_cancel' (Nat.le_of_lt_succ d.scale.isLt)]

lemma compareInt_eq (d : Decimal) (n : Int) :
    d.compareInt n = Ord.compare d.units (n * (tenTo 255 : Nat)) := by
  have hpos : (0 : Int) < (tenTo (255 - d.scale.val) : Nat) := by exact_mod_cast tenTo_pos _
  rw [compareInt, units, ← tenTo_scale_mul d, Int.natCast_mul, ← Int.mul_assoc,
    compare_mul_right hpos]

/-- A decimal is within `2^127` of zero, and only below zero it may be as far. -/
lemma units_bounds (d : Decimal) : -((twoTo 127 : Nat) * (tenTo 255 : Nat) : Int) ≤ d.units ∧
    d.units < (twoTo 127 : Nat) * (tenTo 255 : Nat) := by
  have hle : (tenTo (255 - d.scale.val) : Int) ≤ (tenTo 255 : Nat) := by
    exact_mod_cast tenTo_le_tenTo (Nat.sub_le _ _)
  have hpos : (0 : Int) < (tenTo (255 - d.scale.val) : Nat) := by exact_mod_cast tenTo_pos _
  obtain ⟨hlow, hhigh⟩ : -(twoTo 127 : Int) ≤ d.mantissa.val ∧ d.mantissa.val < (twoTo 127 : Nat) :=
    d.mantissa.fits
  rw [units]
  constructor
  · calc -((twoTo 127 : Nat) * (tenTo 255 : Nat) : Int)
        ≤ -((twoTo 127 : Nat) * (tenTo (255 - d.scale.val) : Nat)) :=
          Int.neg_le_neg (Int.mul_le_mul_of_nonneg_left hle (Int.natCast_nonneg _))
      _ = -(twoTo 127 : Nat) * (tenTo (255 - d.scale.val) : Nat) := (Int.neg_mul _ _).symm
      _ ≤ d.mantissa.val * (tenTo (255 - d.scale.val) : Nat) :=
          Int.mul_le_mul_of_nonneg_right hlow hpos.le
  · calc d.mantissa.val * (tenTo (255 - d.scale.val) : Nat)
        < (twoTo 127 : Nat) * (tenTo (255 - d.scale.val) : Nat) :=
          Int.mul_lt_mul_of_pos_right hhigh hpos
      _ ≤ (twoTo 127 : Nat) * (tenTo 255 : Nat) :=
          Int.mul_le_mul_of_nonneg_left hle (Int.natCast_nonneg _)

end Decimal

namespace Binary64

/-- The place of a number of units. A float is never equal to the least decimal, so floats that
are not above it stand a step farther down. -/
def placeOfUnits (u : Int) : Int :=
  if u ≤ -((twoTo 127 * unitsPerOne : Nat) : Int) then u * (tenTo 255 : Nat) - 1
  else u * (tenTo 255 : Nat)

/-- The place of a float; infinities stand beyond all finite floats. -/
def place : Binary64 → Int
  | .nan => 0
  | .infinity true => -((twoTo 2098 * tenTo 255 : Nat) : Int)
  | .infinity false => (twoTo 2098 * tenTo 255 : Nat)
  | .finite negative m k _ =>
    placeOfUnits (if negative then -((m * twoTo k : Nat) : Int) else ((m * twoTo k : Nat) : Int))

lemma placeOfUnits_lt {u v : Int} (h : u < v) : placeOfUnits u < placeOfUnits v := by
  have hpos : (0 : Int) < (tenTo 255 : Nat) := by exact_mod_cast tenTo_pos _
  have hlt := Int.mul_lt_mul_of_pos_right h hpos
  rw [placeOfUnits, placeOfUnits]
  split <;> split <;> omega

lemma compare_placeOfUnits (u v : Int) :
    Ord.compare (placeOfUnits u) (placeOfUnits v) = Ord.compare u v := by
  rcases lt_trichotomy u v with h | rfl | h
  · rw [compare_lt_iff_lt.mpr h, compare_lt_iff_lt.mpr (placeOfUnits_lt h)]
  · simp
  · rw [compare_gt_iff_gt.mpr h, compare_gt_iff_gt.mpr (placeOfUnits_lt h)]

/-- Infinities are beyond every number of units that a finite float has. -/
lemma place_finite_bounds {m k : Nat} (h : Canonical m k) (negative : Bool) :
    place (.infinity true) < place (.finite negative m k h) ∧
      place (.finite negative m k h) < place (.infinity false) := by
  have hten : 10 ≤ tenTo 255 := tenTo_le_tenTo (m := 1) (by decide)
  have hlt : m * twoTo k < twoTo 2098 := calc
    m * twoTo k < twoTo 53 * twoTo k := Nat.mul_lt_mul_of_pos_right h.1 (twoTo_pos k)
    _ ≤ twoTo 53 * twoTo 2045 := Nat.mul_le_mul_left _ (twoTo_le_twoTo h.2.1)
    _ = twoTo 2098 := (twoTo_add 53 2045).symm
  have hmul : (m * twoTo k + 1) * tenTo 255 ≤ twoTo 2098 * tenTo 255 :=
    Nat.mul_le_mul_right _ hlt
  rw [Nat.add_mul, Nat.one_mul] at hmul
  simp only [place, placeOfUnits]
  cases negative with
  | true =>
    simp only [if_true, Int.neg_mul, ← Int.natCast_mul]
    split <;> omega
  | false =>
    simp only [Bool.false_eq_true, if_false, ← Int.natCast_mul]
    split <;> omega

/-- The order of two floats is the order of their places. -/
lemma compare?_eq {x y : Binary64} (hx : x ≠ .nan) (hy : y ≠ .nan) :
    x.compare? y = some (Ord.compare x.place y.place) := by
  have hlt : place (.infinity true) < place (.infinity false) :=
    Int.lt_trans (place_finite_bounds (m := 0) (k := 0) (by decide) true).1
      (place_finite_bounds (m := 0) (k := 0) (by decide) true).2
  cases x with
  | nan => exact absurd rfl hx
  | infinity a =>
    cases y with
    | nan => exact absurd rfl hy
    | infinity b =>
      cases a <;> cases b
      · simp [compare?]
      · rw [compare_gt_iff_gt.mpr hlt]
        rfl
      · rw [compare_lt_iff_lt.mpr hlt]
        rfl
      · simp [compare?]
    | finite b n l h =>
      cases a with
      | false =>
        rw [compare_gt_iff_gt.mpr (place_finite_bounds h b).2]
        rfl
      | true =>
        rw [compare_lt_iff_lt.mpr (place_finite_bounds h b).1]
        rfl
  | finite a m k h =>
    cases y with
    | nan => exact absurd rfl hy
    | infinity b =>
      cases b with
      | false =>
        rw [compare_lt_iff_lt.mpr (place_finite_bounds h a).2]
        rfl
      | true =>
        rw [compare_gt_iff_gt.mpr (place_finite_bounds h a).1]
        rfl
    | finite b n l h' =>
      rw [place, place, compare_placeOfUnits]
      rfl

end Binary64

namespace Decimal

open Binary64

/-- Floats of magnitude `2^127` or more are beyond every decimal. -/
lemma compare_place_of_le (d : Decimal) {u : Int}
    (h : ((twoTo 127 * unitsPerOne : Nat) : Int) ≤ u) :
    Ord.compare (d.units * unitsPerOne) (placeOfUnits u) = .lt ∧
      Ord.compare (d.units * unitsPerOne) (placeOfUnits (-u)) = .gt := by
  have hunit : (0 : Int) < unitsPerOne := by exact_mod_cast twoTo_pos 1074
  have hpos : 0 < twoTo 127 * unitsPerOne := Nat.mul_pos (twoTo_pos _) (twoTo_pos _)
  obtain ⟨hlow, hhigh⟩ := d.units_bounds
  have hmul :
      ((twoTo 127 : Nat) * (tenTo 255 : Nat) : Int) * unitsPerOne ≤ u * (tenTo 255 : Nat) := by
    rw [Int.mul_right_comm, ← Int.natCast_mul]
    exact Int.mul_le_mul_of_nonneg_right h (Int.natCast_nonneg _)
  constructor
  · rw [compare_lt_iff_lt, placeOfUnits, if_neg (by omega)]
    exact Int.lt_of_lt_of_le (Int.mul_lt_mul_of_pos_right hhigh hunit) hmul
  · have hle := Int.mul_le_mul_of_nonneg_right hlow hunit.le
    rw [compare_gt_iff_gt, placeOfUnits, if_pos (by omega)]
    rw [Int.neg_mul] at hle ⊢
    omega

lemma compare_place_infinity (d : Decimal) (negative : Bool) :
    Ord.compare (d.units * unitsPerOne) (place (.infinity negative)) =
      if negative then .gt else .lt := by
  -- the float `2^127` lies between them
  have hc : Canonical (twoTo 52) 1149 := by decide
  have hunits : twoTo 52 * twoTo 1149 = twoTo 127 * unitsPerOne := by
    rw [unitsPerOne, ← twoTo_add, ← twoTo_add]
  obtain ⟨hlt, hgt⟩ := compare_place_of_le d (Int.le_refl _)
  rw [compare_lt_iff_lt, ← hunits] at hlt
  rw [compare_gt_iff_gt, ← hunits] at hgt
  cases negative with
  | true => exact compare_gt_iff_gt.mpr (Int.lt_trans (place_finite_bounds hc true).1 hgt)
  | false => exact compare_lt_iff_lt.mpr (Int.lt_trans hlt (place_finite_bounds hc false).2)

/-- A float below that magnitude stands at its value. -/
lemma placeOfUnits_eq {u : Int} (h : ¬ ((twoTo 127 * unitsPerOne : Nat) : Int) ≤ u.natAbs) :
    placeOfUnits u = u * (tenTo 255 : Nat) := by
  rw [placeOfUnits, if_neg (by omega)]

/-- A decimal is placed exactly against the integers on both sides of a float. -/
lemma compare_of_compareInt (d : Decimal) (u : Int) :
    (u % (unitsPerOne : Int) = 0 → d.compareInt (u / unitsPerOne) =
      Ord.compare (d.units * unitsPerOne) (u * (tenTo 255 : Nat))) ∧
    (d.compareInt (u / unitsPerOne) ≠ .gt → u / (unitsPerOne : Int) * unitsPerOne < u →
      Ord.compare (d.units * unitsPerOne) (u * (tenTo 255 : Nat)) = .lt) ∧
    (d.compareInt (u / unitsPerOne + 1) ≠ .lt →
      Ord.compare (d.units * unitsPerOne) (u * (tenTo 255 : Nat)) = .gt) := by
  have hunit : (0 : Int) < unitsPerOne := by exact_mod_cast twoTo_pos 1074
  have hten : (0 : Int) < (tenTo 255 : Nat) := by exact_mod_cast tenTo_pos 255
  rw [compareInt_eq, compareInt_eq]
  refine ⟨fun hmod => ?_, fun hle hlt => ?_, fun hge => ?_⟩
  · have hu :
        u / (unitsPerOne : Int) * (tenTo 255 : Nat) * unitsPerOne = u * (tenTo 255 : Nat) := by
      rw [Int.mul_right_comm, Int.ediv_mul_cancel_of_emod_eq_zero hmod]
    rw [← hu, compare_mul_right hunit]
  · rw [compare_le_iff_le] at hle
    rw [compare_lt_iff_lt]
    calc d.units * unitsPerOne
        ≤ u / (unitsPerOne : Int) * (tenTo 255 : Nat) * unitsPerOne :=
          Int.mul_le_mul_of_nonneg_right hle hunit.le
      _ = u / (unitsPerOne : Int) * unitsPerOne * (tenTo 255 : Nat) := Int.mul_right_comm _ _ _
      _ < u * (tenTo 255 : Nat) := Int.mul_lt_mul_of_pos_right hlt hten
  · rw [compare_ge_iff_ge] at hge
    rw [compare_gt_iff_gt]
    calc u * (tenTo 255 : Nat)
        < (u / (unitsPerOne : Int) + 1) * unitsPerOne * (tenTo 255 : Nat) :=
          Int.mul_lt_mul_of_pos_right (Int.lt_ediv_add_one_mul_self u hunit) hten
      _ = (u / (unitsPerOne : Int) + 1) * (tenTo 255 : Nat) * unitsPerOne :=
          Int.mul_right_comm _ _ _
      _ ≤ d.units * unitsPerOne := Int.mul_le_mul_of_nonneg_right hge hunit.le

/-- How a decimal is compared with a finite float: by the sign of a float that is too large, with the
integer that a float is, or with the integers on both sides of it, and only if it lies strictly
between these by its rounded value. -/
lemma compareBinary64?_cases (d : Decimal) {x : Binary64} {u : Int} (hu : x.units? = some u) :
    (((twoTo 127 * unitsPerOne : Nat) : Int) ≤ u ∧ d.compareBinary64? x = some .lt) ∨
    (((twoTo 127 * unitsPerOne : Nat) : Int) ≤ -u ∧ d.compareBinary64? x = some .gt) ∨
    u.natAbs < twoTo 127 * unitsPerOne ∧
      ((u % (unitsPerOne : Int) = 0 ∧ d.compareBinary64? x = some (d.compareInt (u / unitsPerOne))) ∨
      u % (unitsPerOne : Int) ≠ 0 ∧
        ((d.compareInt (u / unitsPerOne) ≠ .gt ∧ d.compareBinary64? x = some .lt) ∨
        (d.compareInt (u / unitsPerOne + 1) ≠ .lt ∧ d.compareBinary64? x = some .gt) ∨
        (d.compareInt (u / unitsPerOne) = .gt ∧ d.compareInt (u / unitsPerOne + 1) = .lt ∧
          d.compareBinary64? x = d.trim.toBinary64.compare? x))) := by
  cases x with
  | nan => cases hu
  | infinity a => cases hu
  | finite a m k hc =>
    have hu' : u = if a then -((m * twoTo k : Nat) : Int) else ((m * twoTo k : Nat) : Int) :=
      (Option.some.inj hu).symm
    simp only [compareBinary64?, ← hu']
    split
    next hbig =>
      cases a with
      | true =>
        rw [if_pos rfl] at hu'
        exact Or.inr (Or.inl ⟨by omega, rfl⟩)
      | false =>
        rw [if_neg Bool.false_ne_true] at hu'
        exact Or.inl ⟨by omega, rfl⟩
    next hsmall =>
      refine Or.inr (Or.inr ⟨by rw [hu']; split <;> omega, ?_⟩)
      split
      next hmod => exact Or.inl ⟨hmod, rfl⟩
      next hmod =>
        refine Or.inr ⟨hmod, ?_⟩
        split
        next hle => exact Or.inl ⟨hle, rfl⟩
        next hgt =>
          split
          next hge => exact Or.inr (Or.inl ⟨hge, rfl⟩)
          next hlt => exact Or.inr (Or.inr ⟨not_not.mp hgt, not_not.mp hlt, rfl⟩)

/-- Where the rounded value of a decimal is not asked for, it is compared with a float exactly. -/
lemma compareBinary64?_eq {d : Decimal} {x : Binary64} (hx : x ≠ .nan)
    (h : ¬ d.SharesUnit x) :
    d.compareBinary64? x = some (Ord.compare (d.units * unitsPerOne) x.place) := by
  cases x with
  | nan => exact absurd rfl hx
  | infinity a => exact congrArg some (compare_place_infinity d a).symm
  | finite a m k hc =>
    obtain ⟨u, hu⟩ : ∃ u, (finite a m k hc).units? = some u := ⟨_, rfl⟩
    have hplace : place (finite a m k hc) = placeOfUnits u := by
      cases hu
      rfl
    obtain ⟨hinteger, hbelow, habove⟩ := compare_of_compareInt d u
    rw [hplace]
    obtain ⟨hbig, ho⟩ | ⟨hbig, ho⟩ | ⟨hsmall, hcases⟩ := d.compareBinary64?_cases hu
    · rw [ho, (compare_place_of_le d hbig).1]
    · have hgt := (compare_place_of_le d hbig).2
      rw [ho, ← hgt, Int.neg_neg]
    · rw [placeOfUnits_eq (by omega)]
      obtain ⟨hmod, ho⟩ | ⟨hmod, hcases⟩ := hcases
      · rw [ho, hinteger hmod]
      · have hfloor : u / (unitsPerOne : Int) * unitsPerOne < u := by
          have := Int.ediv_mul_add_emod u unitsPerOne
          have := Int.emod_nonneg u (b := unitsPerOne) (by exact_mod_cast (twoTo_pos 1074).ne')
          omega
        obtain ⟨hle, ho⟩ | ⟨hge, ho⟩ | ⟨hgt, hlt, -⟩ := hcases
        · rw [ho, hbelow hle hfloor]
        · rw [ho, habove hge]
        · rw [compareInt_eq, compare_gt_iff_gt] at hgt
          rw [compareInt_eq, compare_lt_iff_lt] at hlt
          exact absurd ⟨u, hu, hfloor, hgt, hlt⟩ h

end Decimal

namespace Cell

/-! ### Cells -/

/-- Whether a decimal and a float are compared by the rounded value of the decimal. -/
def SharesUnit : Cell → Cell → Prop
  | .float64 x, b => ∃ d ∈ b.toDecimal?, d.SharesUnit x
  | a, .float64 y => ∃ d ∈ a.toDecimal?, d.SharesUnit y
  | _, _ => False

instance (a b : Cell) : Decidable (a.SharesUnit b) := by
  unfold SharesUnit
  split <;> infer_instance

/-- The place of a cell, floats included. -/
def linePlace : Cell → CellPlace
  | .float64 x => { rank := 2, number := x.place }
  | c => { c.place with number := c.place.number * Binary64.unitsPerOne }

variable {a b : Cell}

lemma rank_linePlace (c : Cell) : c.linePlace.rank = c.familyRank := by
  cases c <;> rfl

lemma linePlace_of_toDecimal? {d : Decimal} (h : a.toDecimal? = some d) :
    a.linePlace = { rank := 2, number := d.units * Binary64.unitsPerOne } := by
  cases a <;> cases h <;> rfl

lemma type?_eq_float64_iff : a.type? = some .float64 ↔ ∃ x, a = .float64 x := by
  cases a <;> simp [type?]

/-- Every place that no float has is scaled by the same factor. -/
lemma compare_linePlace_of_type?_ne (ha : a.type? ≠ some .float64) (hb : b.type? ≠ some .float64) :
    CellPlace.compare a.linePlace b.linePlace = CellPlace.compare a.place b.place := by
  have hunit : (0 : Int) < Binary64.unitsPerOne := by exact_mod_cast twoTo_pos 1074
  have hscale (p q : CellPlace) : CellPlace.compare
      { p with number := p.number * Binary64.unitsPerOne }
      { q with number := q.number * Binary64.unitsPerOne } = CellPlace.compare p q := by
    simp only [CellPlace.compare, compareLex, compareOn, Decimal.compare_mul_right hunit]
  have hplace {c : Cell} (hc : c.type? ≠ some .float64) :
      c.linePlace = { c.place with number := c.place.number * Binary64.unitsPerOne } := by
    cases c with
    | float64 x => exact absurd rfl hc
    | _ => rfl
  rw [hplace ha, hplace hb, hscale]

lemma compare_number {m n : Int} : CellPlace.compare { rank := 2, number := m }
    { rank := 2, number := n } = Ord.compare m n := by
  simp [CellPlace.compare, compareLex, compareOn]

lemma family?_eq_numeric_of_familyRank_eq {x : Binary64}
    (h : (Cell.float64 x).familyRank = b.familyRank) : b.family? = some .numeric := by
  cases b <;> first | rfl | simp [familyRank, family?] at h

lemma compare_float_toDecimal? {d : Decimal} {x : Binary64} (hb : b.toDecimal? = some d) :
    (Cell.float64 x).compare? b = (d.compareBinary64? x).map Ordering.swap ∧
      b.compare? (.float64 x) = d.compareBinary64? x := by
  cases b <;> cases hb <;> exact ⟨rfl, rfl⟩

/-- Two cells of one family are two floats, a float and an exact number, or no floats at all. -/
lemma cases_of_familyRank_eq (h : a.familyRank = b.familyRank) :
    (∃ x y, a = .float64 x ∧ b = .float64 y) ∨ (∃ x, a = .float64 x ∧ ∃ d, b.toDecimal? = some d) ∨
      (∃ y, b = .float64 y ∧ ∃ d, a.toDecimal? = some d) ∨
      (a.type? ≠ some .float64 ∧ b.type? ≠ some .float64) := by
  by_cases ha : a.type? = some .float64
  · obtain ⟨x, rfl⟩ := type?_eq_float64_iff.mp ha
    by_cases hb : b.type? = some .float64
    · obtain ⟨y, rfl⟩ := type?_eq_float64_iff.mp hb
      exact Or.inl ⟨x, y, rfl, rfl⟩
    · have hnumeric := family?_eq_numeric_of_familyRank_eq h
      exact Or.inr (Or.inl ⟨x, rfl, exists_toDecimal? hb hnumeric⟩)
  · by_cases hb : b.type? = some .float64
    · obtain ⟨y, rfl⟩ := type?_eq_float64_iff.mp hb
      have hnumeric := family?_eq_numeric_of_familyRank_eq h.symm
      exact Or.inr (Or.inr (Or.inl ⟨y, rfl, exists_toDecimal? ha hnumeric⟩))
    · exact Or.inr (Or.inr (Or.inr ⟨ha, hb⟩))

lemma sharesUnit_iff_of_toDecimal? {d : Decimal} {x : Binary64} (h : a.toDecimal? = some d) :
    (a.SharesUnit (.float64 x) ↔ d.SharesUnit x) ∧
      ((Cell.float64 x).SharesUnit a ↔ d.SharesUnit x) := by
  cases a <;> cases h <;> simp [SharesUnit, toDecimal?]

/-- Values of one family other than NaN are ordered by value, and that is the order of their places
wherever none is rounded. -/
lemma compare?_eq_linePlace (ha : a ≠ .float64 .nan) (hb : b ≠ .float64 .nan)
    (h : ¬ a.SharesUnit b) (hn : a.isNull = false) (hr : a.familyRank = b.familyRank) :
    a.compare? b = some (CellPlace.compare a.linePlace b.linePlace) := by
  obtain ⟨x, y, rfl, rfl⟩ | ⟨x, rfl, d, hd⟩ | ⟨y, rfl, d, hd⟩ | ⟨hfa, hfb⟩ :=
    cases_of_familyRank_eq hr
  · have hx : x ≠ .nan := fun hx => ha (hx ▸ rfl)
    have hy : y ≠ .nan := fun hy => hb (hy ▸ rfl)
    have hcompare : (Cell.float64 x).compare? (.float64 y) = x.compare? y := rfl
    rw [hcompare, Binary64.compare?_eq hx hy, linePlace, linePlace, compare_number]
  · have hx : x ≠ .nan := fun hx => ha (hx ▸ rfl)
    rw [(sharesUnit_iff_of_toDecimal? hd).2] at h
    rw [(compare_float_toDecimal? hd).1, Decimal.compareBinary64?_eq hx h,
      linePlace_of_toDecimal? hd, linePlace, compare_number, Option.map_some,
      ← Std.OrientedOrd.eq_swap]
  · have hy : y ≠ .nan := fun hy => hb (hy ▸ rfl)
    rw [(sharesUnit_iff_of_toDecimal? hd).1] at h
    rw [(compare_float_toDecimal? hd).2, Decimal.compareBinary64?_eq hy h,
      linePlace_of_toDecimal? hd, linePlace, compare_number]
  · rw [compare?_eq_some hfa hfb hn hr, compare_linePlace_of_type?_ne hfa hfb]

/-- Cells other than NaN are compared by their places, wherever none is rounded. -/
lemma comparesAs_linePlace (ha : a ≠ .float64 .nan) (hb : b ≠ .float64 .nan)
    (h : ¬ a.SharesUnit b) : ComparesAs a b a.linePlace b.linePlace where
  rank_left := rank_linePlace a
  rank_right := rank_linePlace b
  eq_of_null ha hb := by rw [ha, hb]
  compare?_eq := compare?_eq_linePlace ha hb h

end Cell

end Confluence
