import Confluence.Proofs.Number.Sums
import Mathlib.Algebra.BigOperators.Ring.Finset
import Mathlib.Algebra.Order.Field.Basic
import Mathlib.Algebra.Order.Field.Rat
import Mathlib.Tactic.FieldSimp
import Mathlib.Tactic.Linarith

/-!
# Rounding of quotients

A division cuts the quotient off behind one digit more than asked for, and that digit decides how
the others are rounded. Cutting off twice is cutting off once, so the digits that are dropped on
the way do not matter: the quotient is the exact one, rounded half away from zero.
-/

namespace Confluence

/-! ### Truncation -/

/-- The integer `q` is `x` without what stands after its point. -/
inductive Truncates (x : ℚ) (q : ℤ) : Prop where
  | down (nonneg : 0 ≤ q) (le : (q : ℚ) ≤ x) (lt : x < q + 1)
  | up (nonpos : q ≤ 0) (le : x ≤ q) (lt : q - 1 < x)

/-- The integer `n` is nearest to `x`; of two nearest ones it is the one farther from zero. -/
structure RoundsHalfAway (x : ℚ) (n : ℤ) : Prop where
  near : |(n : ℚ) - x| ≤ 1 / 2
  away : |(n : ℚ) - x| = 1 / 2 → |x| < |(n : ℚ)|

variable {x : ℚ} {q n : ℤ}

lemma truncates_intCast (q : ℤ) : Truncates q q := by
  rcases Int.le_total 0 q with h | h
  · exact .down h le_rfl (lt_add_one _)
  · exact .up h le_rfl (sub_one_lt _)

lemma Truncates.neg (h : Truncates x q) : Truncates (-x) (-q) := by
  cases h with
  | down nonneg le lt =>
    refine .up (by omega) ?_ ?_ <;> push_cast <;> linarith
  | up nonpos le lt =>
    refine .down (by omega) ?_ ?_ <;> push_cast <;> linarith

/-- A fraction between minus one and one is cut off as a whole. -/
lemma truncates_zero (h : |x| < 1) : Truncates x 0 := by
  rw [abs_lt] at h
  rcases le_total 0 x with hx | hx
  · exact .down le_rfl (by simpa using hx) (by simpa using h.2)
  · exact .up le_rfl (by simpa using hx) (by simpa using h.1)

lemma Truncates.tdiv_of_nonneg (hq : 0 ≤ q) (hle : (q : ℚ) ≤ x) (hlt : x < q + 1) (hn : 0 < n) :
    Truncates (x / n) (q.tdiv n) := by
  have hnq : (0 : ℚ) < n := by exact_mod_cast hn
  rw [Int.tdiv_eq_ediv_of_nonneg hq]
  have hlow : ((q / n * n : ℤ) : ℚ) ≤ q := by exact_mod_cast Int.ediv_mul_le q hn.ne'
  have hhigh : ((q + 1 : ℤ) : ℚ) ≤ ((q / n + 1) * n : ℤ) := by
    exact_mod_cast Int.lt_ediv_add_one_mul_self q hn
  push_cast at hlow hhigh
  refine .down (Int.ediv_nonneg hq hn.le) ?_ ?_
  · rw [le_div_iff₀ hnq]
    linarith
  · rw [div_lt_iff₀ hnq]
    linarith

/-- Cutting off a quotient of what is cut off already is cutting off the quotient. -/
lemma Truncates.tdiv (h : Truncates x q) (hn : n ≠ 0) : Truncates (x / n) (q.tdiv n) := by
  -- the divisor is positive but for the sign of the quotient
  have hpos {n : ℤ} (hn : 0 < n) : Truncates (x / n) (q.tdiv n) := by
    cases h with
    | down nonneg le lt => exact tdiv_of_nonneg nonneg le lt hn
    | up nonpos le lt =>
      have hq : ((-q : ℤ) : ℚ) = -q := Int.cast_neg q
      have := tdiv_of_nonneg (x := -x) (q := -q) (by omega) (by linarith) (by linarith) hn
      simpa [Int.neg_tdiv, neg_div] using this.neg
  rcases lt_or_gt_of_ne hn with hneg | hn
  · have := (hpos (n := -n) (by omega)).neg
    simpa [Int.tdiv_neg, div_neg] using this
  · exact hpos hn

/-! ### Rounding -/

lemma RoundsHalfAway.neg (h : RoundsHalfAway x n) : RoundsHalfAway (-x) (-n) := by
  have habs : |((-n : ℤ) : ℚ) - -x| = |(n : ℚ) - x| := by
    rw [← abs_neg]
    push_cast
    ring_nf
  refine ⟨habs ▸ h.near, fun htie => ?_⟩
  rw [habs] at htie
  simpa using h.away htie

/-- A number between two consecutive integers is rounded to one of them. -/
lemma RoundsHalfAway.not_succ (h : RoundsHalfAway x n) : ¬ RoundsHalfAway x (n + 1) := by
  intro h'
  have hcast : ((n + 1 : ℤ) : ℚ) = n + 1 := by push_cast; rfl
  have hlow := (abs_le.mp h.near).1
  have hhigh := (abs_le.mp h'.near).2
  -- only the middle of the two is that near to both, and it is not farther away than both
  obtain rfl : x = n + 1 / 2 := by linarith
  have hn := h.away (by rw [abs_sub_comm, abs_of_nonneg] <;> linarith)
  have hn' := h'.away (by rw [abs_of_nonneg] <;> linarith)
  rcases Int.lt_or_le n 0 with hneg | hpos
  · have hneg : (n : ℚ) + 1 ≤ 0 := by exact_mod_cast hneg
    rw [abs_of_nonpos (by linarith), abs_of_nonpos (by linarith)] at hn'
    linarith
  · have hpos : (0 : ℚ) ≤ n := by exact_mod_cast hpos
    rw [abs_of_nonneg (by linarith), abs_of_nonneg hpos] at hn
    linarith

lemma RoundsHalfAway.unique {m : ℤ} (hm : RoundsHalfAway x m) (hn : RoundsHalfAway x n) :
    m = n := by
  have hmx := abs_le.mp hm.near
  have hnx := abs_le.mp hn.near
  have hle : m ≤ n + 1 := by exact_mod_cast (by linarith : (m : ℚ) ≤ n + 1)
  have hge : n ≤ m + 1 := by exact_mod_cast (by linarith : (n : ℚ) ≤ m + 1)
  obtain rfl | rfl | h : m = n + 1 ∨ n = m + 1 ∨ m = n := by omega
  · exact absurd hm hn.not_succ
  · exact absurd hn hm.not_succ
  · exact h

namespace Decimal

/-- But for the least number of all, rounding does not depend on the sign. -/
lemma roundLastDigit_neg (hq : 0 ≤ q) (hb : q.natAbs < Signed.bound 128) :
    roundLastDigit (-q) = -roundLastDigit q := by
  have hdigit : (Signed.wrap 128 (-(-q))).val.tmod 10 = q % 10 := by
    rw [neg_neg, Signed.wrap_val (by decide) (Signed.fits_of_natAbs_lt hb),
      Int.tmod_eq_emod_of_nonneg hq]
  rw [roundLastDigit, roundLastDigit, hdigit]
  split_ifs <;> omega

/-- The digit after the last one tells on which side of a half the rest is. -/
lemma roundsHalfAway_of_nonneg (hq : 0 ≤ q) (hle : (q : ℚ) ≤ 10 * x) (hlt : 10 * x < q + 1) :
    RoundsHalfAway x (roundLastDigit q) := by
  obtain ⟨k, d, hk, hd, hd', rfl⟩ : ∃ k d : ℤ, 0 ≤ k ∧ 0 ≤ d ∧ d < 10 ∧ q = 10 * k + d :=
    ⟨q / 10, q % 10, by omega, by omega, by omega, by omega⟩
  have hkq : (0 : ℚ) ≤ k := by exact_mod_cast hk
  push_cast at hle hlt
  rcases Int.lt_or_le d 5 with h5 | h5
  · have hround : roundLastDigit (10 * k + d) = k := by
      rw [roundLastDigit]
      split_ifs <;> omega
    have hd₀ : (0 : ℚ) ≤ d := by exact_mod_cast hd
    have hd₁ : (d : ℚ) + 1 ≤ 5 := by exact_mod_cast h5
    have hnear : |(k : ℚ) - x| < 1 / 2 := abs_lt.mpr ⟨by linarith, by linarith⟩
    rw [hround]
    exact ⟨hnear.le, fun htie => absurd htie hnear.ne⟩
  · have hround : roundLastDigit (10 * k + d) = k + 1 := by
      rw [roundLastDigit]
      split_ifs <;> omega
    have hd₀ : (5 : ℚ) ≤ d := by exact_mod_cast h5
    have hd₁ : (d : ℚ) + 1 ≤ 10 := by exact_mod_cast hd'
    have hcast : ((k + 1 : ℤ) : ℚ) = k + 1 := by push_cast; rfl
    rw [hround]
    refine ⟨abs_le.mpr ⟨by linarith, by linarith⟩, fun htie => ?_⟩
    rw [abs_of_nonneg (by linarith)] at htie
    rw [abs_of_nonneg (by linarith), abs_of_nonneg (by linarith)]
    linarith

/-- One more digit than asked for decides how to round. -/
lemma roundsHalfAway_roundLastDigit (h : Truncates (10 * x) q)
    (hb : q.natAbs < Signed.bound 128) : RoundsHalfAway x (roundLastDigit q) := by
  cases h with
  | down nonneg le lt => exact roundsHalfAway_of_nonneg nonneg le lt
  | up nonpos le lt =>
    have hq : ((-q : ℤ) : ℚ) = -q := Int.cast_neg q
    have hneg := roundsHalfAway_of_nonneg (x := -x) (q := -q) (by omega) (by linarith) (by linarith)
    have hsign : roundLastDigit q = -roundLastDigit (-q) := by
      rw [← roundLastDigit_neg (by omega) (by rwa [Int.natAbs_neg]), neg_neg]
    rw [hsign]
    simpa using hneg.neg

/-! ### Values of decimals -/

/-- The number that a decimal stands for. -/
def value (d : Decimal) : ℚ := d.mantissa.val / (tenTo d.scale.val : Nat)

variable {d e : Decimal} {ds : List Decimal} {places : Scale}

lemma tenTo_cast_ne_zero (s : Nat) : (tenTo s : ℚ) ≠ 0 := by
  exact_mod_cast (tenTo_pos s).ne'

lemma tenTo_cast_add (s t : Nat) : (tenTo (s + t) : ℚ) = tenTo s * tenTo t := by
  rw [tenTo_add, Nat.cast_mul]

lemma value_mul_of_scale_le {s : Nat} (h : d.scale.val ≤ s) :
    d.value * tenTo s = d.mantissaAt s := by
  rw [value, mantissaAt, div_mul_eq_mul_div, div_eq_iff (tenTo_cast_ne_zero _)]
  push_cast
  rw [mul_assoc, ← tenTo_cast_add, Nat.sub_add_cancel h]

lemma value_mul_of_le_scale {s : Nat} (h : s ≤ d.scale.val) :
    d.value * tenTo s = d.mantissa.val / tenTo (d.scale.val - s) := by
  rw [value, div_mul_eq_mul_div, div_eq_div_iff (tenTo_cast_ne_zero _) (tenTo_cast_ne_zero _),
    mul_assoc, ← tenTo_cast_add, Nat.add_sub_cancel' h]

/-- The exact sum of some decimals stands for the sum of their numbers. -/
lemma IsSum.value_eq (h : IsSum ds d) : d.value = (ds.map value).sum := by
  have hmap : ds.map value =
      ds.map fun e => (e.mantissaAt (largestScale ds) : ℚ) * (tenTo (largestScale ds) : ℚ)⁻¹ :=
    List.map_congr_left fun e he => by
      rw [← value_mul_of_scale_le (scale_le_largestScale he),
        mul_inv_cancel_right₀ (tenTo_cast_ne_zero _)]
  rw [hmap, List.sum_map_mul_right, value, h.mantissa_eq, h.scale_eq, div_eq_mul_inv, totalAt,
    Int.cast_list_sum, List.map_map]
  rfl

/-! ### Quotients -/

/-- The dividend of a division is the value, cut off behind one digit more than asked for. -/
lemma truncates_of_shifted? {s : Signed 128} (h : shifted? d places = some s) :
    Truncates (d.value * tenTo (places.val + 1)) s.val := by
  rw [shifted?] at h
  split at h
  next hle =>
    simp only [Option.ite_none_right_eq_some, Signed.ofInt?_eq_some_iff] at h
    rw [value_mul_of_scale_le hle, mantissaAt, ← h.2]
    exact truncates_intCast s.val
  next hlt =>
    rw [value_mul_of_le_scale (Nat.le_of_not_le hlt)]
    obtain ⟨power, hpower⟩ : ∃ power, tenTo (d.scale.val - (places.val + 1)) = power := ⟨_, rfl⟩
    simp only [hpower] at h ⊢
    split at h
    · cases h
      have hne : (power : ℤ) ≠ 0 := by exact_mod_cast hpower ▸ (tenTo_pos _).ne'
      exact (truncates_intCast d.mantissa.val).tdiv hne
    next hfits =>
      cases h
      -- the power is beyond every mantissa
      have hbound := bound_lt_tenTo (hpower ▸ hfits)
      have hmantissa := d.mantissa.natAbs_le
      rw [hpower] at hbound
      have hlow : -(power : ℚ) < d.mantissa.val := by
        exact_mod_cast (by omega : -(power : ℤ) < d.mantissa.val)
      have hhigh : (d.mantissa.val : ℚ) < power := by
        exact_mod_cast (by omega : d.mantissa.val < (power : ℤ))
      have hpos : (0 : ℚ) < power := by linarith
      apply truncates_zero
      rw [abs_lt, lt_div_iff₀ hpos, div_lt_one hpos, neg_one_mul]
      exact ⟨hlow, hhigh⟩

/-- A quotient whose digits fit is the exact one, rounded half away from zero on its last place. -/
lemma of_divRound?_eq_some {n : Signed 128} (h : d.divRound? n places = some e)
    (hb : d.QuotientFits n places) :
    n.val ≠ 0 ∧ e.scale = places ∧
      RoundsHalfAway (d.value / n.val * tenTo places.val) e.mantissa.val := by
  rw [divRound?] at h
  split at h
  · cases h
  next hn =>
    obtain ⟨s, hs, rfl⟩ := Option.map_eq_some_iff.mp h
    have hq := hb s hs
    refine ⟨hn, rfl, ?_⟩
    simp only [Signed.wrap_val (by decide) (Signed.fits_of_natAbs_lt hq)]
    refine roundsHalfAway_roundLastDigit ?_ hq
    have hten : 10 * (d.value / n.val * tenTo places.val) =
        d.value * tenTo (places.val + 1) / n.val := by
      rw [tenTo_cast_add, show (tenTo 1 : ℚ) = 10 from rfl]
      ring
    rw [hten]
    exact (truncates_of_shifted? hs).tdiv hn

/-- There is a quotient unless the divisor is zero or the shifted dividend overflows. It is the exact
one, rounded half away from zero on its last place, if the digits that are to be rounded stay
strictly between `-2^127` and `2^127`. -/
theorem quotient_rounds_half_away (d : Decimal) (divisor : Signed 128) (places : Scale) :
    (d.divRound? divisor places = none ↔ divisor.val = 0 ∨ d.Overflows places) ∧
      (¬ (divisor.val = 0 ∨ d.Overflows places) → d.QuotientFits divisor places →
        ∃ r, d.divRound? divisor places = some ⟨r, places⟩ ∧
          ∀ n : ℤ, RoundsHalfAway ((d.mantissa.val : ℚ) / (10 ^ d.scale.val * divisor.val) *
            10 ^ places.val) n ↔ n = r.val) := by
  refine ⟨divRound?_eq_none_iff, fun h hb => ?_⟩
  rw [← divRound?_eq_none_iff, ← Ne, Option.ne_none_iff_exists'] at h
  obtain ⟨e, he⟩ := h
  obtain ⟨-, rfl, hround⟩ := of_divRound?_eq_some he hb
  have hpower (k : Nat) : (tenTo k : ℚ) = 10 ^ k := Nat.cast_pow 10 k
  rw [value, hpower, hpower, div_div] at hround
  exact ⟨e.mantissa, he, fun n => ⟨fun hn => hn.unique hround, fun hn => hn ▸ hround⟩⟩

/-- The quotient `-0.125` ends in a half at two places. -/
theorem quotient_rounds_half_away_of_eighth :
    let d : Decimal := ⟨⟨-1, by decide⟩, 0⟩
    let divisor : Signed 128 := ⟨8, by decide⟩
    ¬ (divisor.val = 0 ∨ d.Overflows 2) ∧ d.QuotientFits divisor 2 ∧
      ∃ r, d.divRound? divisor 2 = some ⟨r, 2⟩ ∧
        ∀ n : ℤ, RoundsHalfAway ((d.mantissa.val : ℚ) / (10 ^ d.scale.val * divisor.val) *
          10 ^ (2 : Scale).val) n ↔ n = r.val := by
  intro d divisor
  have h : ¬ (divisor.val = 0 ∨ d.Overflows 2) := by decide
  have hb : d.QuotientFits divisor 2 := by decide
  exact ⟨h, hb, (quotient_rounds_half_away d divisor 2).2 h hb⟩

end Decimal

end Confluence
