import Confluence.Proofs.Number.Zero

/-!
# Decimals are numbers in floating point

A decimal is rounded by dividing its rounded mantissa by a power of ten. The mantissa is far below
the largest float, and no power of ten is rounded to less than one, so the quotient is neither that
of two infinities nor that of two zeros: it is never NaN.
-/

namespace Confluence.Binary64

variable {num den : Nat}

lemma pack_ne_nan {negative : Bool} {m k : Nat} : pack negative m k ≠ .nan := by
  rw [pack]
  split <;> exact Binary64.noConfusion

lemma nearest_ne_nan {negative : Bool} : nearest negative num den ≠ .nan := by
  simp only [nearest]
  split <;> exact pack_ne_nan

/-! ### Significands -/

lemma log2_le_of_le_twoTo {n k : Nat} (h : n ≤ twoTo k) : n.log2 ≤ k := by
  rcases Nat.eq_zero_or_pos n with rfl | hpos
  · exact Nat.zero_le k
  · have hlt : n < twoTo (k + 1) := Nat.lt_of_le_of_lt h (Nat.pow_lt_pow_succ (by decide))
    exact Nat.le_of_lt_succ ((Nat.log2_lt (Nat.ne_of_gt hpos)).mpr hlt)

lemma le_log2_of_twoTo_le {n k : Nat} (h : twoTo k ≤ n) : k ≤ n.log2 :=
  (Nat.le_log2 (Nat.ne_of_gt (Nat.lt_of_lt_of_le (twoTo_pos k) h))).mpr h

lemma divNearestEven_le (num den : Nat) : divNearestEven num den ≤ num / den + 1 := by
  simp only [divNearestEven]
  split_ifs <;> omega

/-- The shift leaves no more than 53 bits before the point. -/
lemma significand_le (num den : Nat) :
    divNearestEven num (den * twoTo ((num / den).log2 - 52)) ≤ twoTo 53 := by
  obtain ⟨shift, hshift⟩ : ∃ shift, (num / den).log2 - 52 = shift := ⟨_, rfl⟩
  have hlt : num / den < twoTo shift * twoTo 53 := by
    rw [← twoTo_add]
    exact Nat.lt_of_lt_of_le Nat.lt_log2_self (twoTo_le_twoTo (by omega))
  have hquotient : num / (den * twoTo shift) < twoTo 53 := by
    rw [← Nat.div_div_eq_div_mul]
    exact Nat.div_lt_of_lt_mul hlt
  rw [hshift]
  exact Nat.le_trans (divNearestEven_le _ _) hquotient

/-- The shift leaves all 53 bits of a quotient that has as many. -/
lemma le_significand (num den : Nat) (h : 52 ≤ (num / den).log2) :
    twoTo 52 ≤ divNearestEven num (den * twoTo ((num / den).log2 - 52)) := by
  have hne : num / den ≠ 0 := by
    intro hzero
    rw [hzero] at h
    exact absurd h (by decide)
  refine Nat.le_trans ?_ (le_divNearestEven _ _)
  rw [← Nat.div_div_eq_div_mul, Nat.le_div_iff_mul_le (twoTo_pos _), ← twoTo_add,
    Nat.add_sub_cancel' h]
  exact Nat.log2_self_le hne

/-! ### Integers are finite -/

/-- What is far below the largest float is not rounded to an infinity. -/
lemma isFinite_nearest {negative : Bool} (h : num / den ≤ twoTo 2096) :
    (nearest negative num den).isFinite = true := by
  have hlog := log2_le_of_le_twoTo h
  have hle := significand_le num den
  simp only [nearest]
  split
  · rw [pack, dif_pos ⟨by decide, by omega, Or.inr (Nat.le_refl _)⟩]
    rfl
  next hne =>
    have hfull : (num / den).log2 - 52 = 0 ∨
        twoTo 52 ≤ divNearestEven num (den * twoTo ((num / den).log2 - 52)) := by
      rcases Nat.le_total 52 (num / den).log2 with hle | hge
      · exact Or.inr (le_significand num den hle)
      · exact Or.inl (Nat.sub_eq_zero_of_le hge)
    rw [pack, dif_pos ⟨Nat.lt_of_le_of_ne hle hne, by omega, hfull⟩]
    rfl

lemma isFinite_ofInt {n : Int} (h : n.natAbs ≤ twoTo 127) : (ofInt n).isFinite = true := by
  rw [ofInt, ofFraction]
  apply isFinite_nearest
  have hle : n.natAbs * unitsPerOne ≤ twoTo 127 * unitsPerOne := Nat.mul_le_mul_right _ h
  rw [unitsPerOne, ← twoTo_add] at hle
  rw [Nat.div_one]
  exact Nat.le_trans hle (twoTo_le_twoTo (by decide))

/-! ### Powers of ten are not zero -/

/-- A float that is at least one. -/
inductive AtLeastOne : Binary64 → Prop
  | infinity : AtLeastOne (.infinity false)
  | finite {m k : Nat} (h : Canonical m k) (le : unitsPerOne ≤ m * twoTo k) :
    AtLeastOne (.finite false m k h)

variable {x y : Binary64}

lemma atLeastOne_pack {m k : Nat} (h : unitsPerOne ≤ m * twoTo k) :
    (pack false m k).AtLeastOne := by
  rw [pack]
  split
  · exact .finite _ h
  · exact .infinity

/-- One is a float, so nothing from one on is rounded to less. -/
lemma atLeastOne_nearest (hden : 0 < den) (h : unitsPerOne * den ≤ num) :
    (nearest false num den).AtLeastOne := by
  have hquotient : unitsPerOne ≤ num / den := (Nat.le_div_iff_mul_le hden).mpr h
  have hlog : 1074 ≤ (num / den).log2 := by
    rw [unitsPerOne] at hquotient
    exact le_log2_of_twoTo_le hquotient
  have hunit {k : Nat} (hk : 1022 ≤ k) : unitsPerOne ≤ twoTo 52 * twoTo k := by
    rw [unitsPerOne, ← twoTo_add]
    exact twoTo_le_twoTo (by omega)
  simp only [nearest]
  split
  · exact atLeastOne_pack (hunit (by omega))
  · have hle := le_significand num den (by omega)
    exact atLeastOne_pack
      (Nat.le_trans (hunit (k := (num / den).log2 - 52) (by omega)) (Nat.mul_le_mul_right _ hle))

lemma ne_zero_of_unitsPerOne_le {m k : Nat} (h : unitsPerOne ≤ m * twoTo k) : m ≠ 0 := by
  rintro rfl
  rw [Nat.zero_mul] at h
  exact absurd h (Nat.not_le_of_gt unitsPerOne_pos)

lemma AtLeastOne.mul (hx : x.AtLeastOne) (hy : y.AtLeastOne) : (x * y).AtLeastOne := by
  show (Binary64.mul x y).AtLeastOne
  cases hx with
  | infinity =>
    cases hy with
    | infinity => exact .infinity
    | finite h hn =>
      rw [Binary64.mul, if_neg (ne_zero_of_unitsPerOne_le hn)]
      exact .infinity
  | finite h hm =>
    cases hy with
    | infinity =>
      rw [Binary64.mul, if_neg (ne_zero_of_unitsPerOne_le hm)]
      exact .infinity
    | finite h' hn =>
      rw [Binary64.mul, bne_self_eq_false]
      exact atLeastOne_nearest unitsPerOne_pos (Nat.mul_le_mul hm hn)

lemma atLeastOne_powLoop {bits n : Nat} (hx : x.AtLeastOne) (hy : y.AtLeastOne) :
    (powLoop bits x y n).AtLeastOne := by
  induction bits generalizing x y n with
  | zero => exact hy
  | succ bits ih =>
    have hacc : (if n % 2 = 1 then y * x else y).AtLeastOne := by
      split
      · exact hy.mul hx
      · exact hy
    rw [powLoop]
    split
    · exact hacc
    · exact ih (hx.mul hx) hacc

lemma atLeastOne_ofInt {n : Int} (h : 0 < n) : (ofInt n).AtLeastOne := by
  rw [ofInt, ofFraction, decide_eq_false (by omega)]
  apply atLeastOne_nearest Nat.one_pos
  rw [Nat.mul_one]
  exact Nat.le_mul_of_pos_left _ (by omega)

lemma AtLeastOne.pow (hx : x.AtLeastOne) (n : Nat) : (x.pow n).AtLeastOne := by
  rw [Binary64.pow]
  exact atLeastOne_powLoop hx (atLeastOne_ofInt Int.one_pos)

/-- The quotient of a finite number by a number from one on is a number. -/
lemma div_ne_nan (hx : x.isFinite = true) (hy : y.AtLeastOne) : x / y ≠ .nan := by
  show Binary64.div x y ≠ .nan
  cases x with
  | nan => cases hx
  | infinity a => cases hx
  | finite a m k h =>
    cases hy with
    | infinity => exact Binary64.noConfusion
    | finite h' hn =>
      rw [Binary64.div, if_neg (ne_zero_of_unitsPerOne_le hn)]
      exact nearest_ne_nan

end Confluence.Binary64

namespace Confluence.Decimal

/-- No decimal is NaN in floating point. -/
lemma toBinary64_ne_nan (d : Decimal) : d.toBinary64 ≠ .nan := by
  have hpower := (Binary64.atLeastOne_ofInt (n := 10) (by decide)).pow d.scale.val
  rw [toBinary64]
  exact Binary64.div_ne_nan (Binary64.isFinite_ofInt d.mantissa.natAbs_le) hpower

end Confluence.Decimal
