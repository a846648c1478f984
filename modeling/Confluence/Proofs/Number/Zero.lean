import Confluence.Number.Decimal
import Mathlib.Tactic.Common

/-!
# Integers that are zero in floating point

Rounding keeps what is at least one unit away from zero, so an integer other than zero is not zero
in floating point either, and neither is its quotient by one.
-/

namespace Confluence.Binary64

lemma unitsPerOne_pos : 0 < unitsPerOne := by
  rw [unitsPerOne]
  exact twoTo_pos _

lemma le_divNearestEven (num den : Nat) : num / den ≤ divNearestEven num den := by
  simp only [divNearestEven]
  split
  · exact Nat.le_refl _
  · split
    · exact Nat.le_succ _
    · split
      · exact Nat.le_refl _
      · exact Nat.le_succ _

lemma isZero_pack {negative : Bool} {m k : Nat} (h : m ≠ 0) : (pack negative m k).isZero = false := by
  rw [pack]
  split
  · cases m with
    | zero => exact absurd rfl h
    | succ m => rfl
  · rfl

/-- At least one unit does not round to zero. -/
lemma isZero_nearest {negative : Bool} {num den : Nat} (hden : 0 < den) (h : den ≤ num) :
    (nearest negative num den).isZero = false := by
  have hquotient : num / den ≠ 0 := Nat.div_ne_zero_iff.mpr ⟨Nat.ne_of_gt hden, h⟩
  have hshift : den * twoTo ((num / den).log2 - 52) ≤ num := by
    have hpower : twoTo ((num / den).log2 - 52) ≤ num / den :=
      Nat.le_trans (twoTo_le_twoTo (Nat.sub_le _ 52)) (Nat.log2_self_le hquotient)
    exact Nat.le_trans (Nat.mul_le_mul_left den hpower) (Nat.mul_div_le num den)
  have hsignificand : divNearestEven num (den * twoTo ((num / den).log2 - 52)) ≠ 0 := by
    have hle := le_divNearestEven num (den * twoTo ((num / den).log2 - 52))
    have hpos : 1 ≤ num / (den * twoTo ((num / den).log2 - 52)) :=
      Nat.div_pos hshift (Nat.mul_pos hden (twoTo_pos _))
    exact Nat.ne_of_gt (Nat.lt_of_lt_of_le hpos hle)
  simp only [nearest]
  split
  · exact isZero_pack (Nat.ne_of_gt (twoTo_pos 52))
  · exact isZero_pack hsignificand

/-- An integer is zero in floating point only if it is zero. -/
lemma isZero_ofInt {n : Int} (h : n ≠ 0) : (ofInt n).isZero = false := by
  rw [ofInt, ofFraction]
  apply isZero_nearest Nat.one_pos
  exact Nat.succ_le_of_lt (Nat.mul_pos (Int.natAbs_pos.mpr h) unitsPerOne_pos)

lemma ofInt_one : ofInt 1 = .finite false (twoTo 52) 1022 (by decide) := by decide +kernel

lemma pow_zero (base : Binary64) : pow base 0 = ofInt 1 := by simp [pow, powLoop]

/-- A quotient by one is zero only if the dividend is. -/
lemma isZero_div_one {x : Binary64} (h : x.isZero = false) : (x / ofInt 1).isZero = false := by
  have hunits : twoTo 52 * twoTo 1022 = unitsPerOne := by
    rw [unitsPerOne, ← twoTo_add]
  rw [ofInt_one]
  cases x with
  | nan => rfl
  | infinity negative => rfl
  | finite negative m k hm =>
    have hpos : 0 < m := by
      cases m with
      | zero => cases h
      | succ m => exact Nat.succ_pos m
    show (div _ _).isZero = false
    rw [div, if_neg (Nat.ne_of_gt (twoTo_pos 52)), hunits]
    apply isZero_nearest unitsPerOne_pos
    exact Nat.le_mul_of_pos_left unitsPerOne (Nat.mul_pos hpos (twoTo_pos k))

end Confluence.Binary64

namespace Confluence.Decimal

/-- A decimal without places is zero in floating point only if it is zero. -/
lemma isZero_toBinary64_trim {d : Decimal} (hscale : d.scale.val = 0) (h : d.mantissa.val ≠ 0) :
    d.trim.toBinary64.isZero = false := by
  have hmantissa : d.trim.mantissa.val = d.mantissa.val := by
    rw [trim, if_neg h]
    simp only [hscale, stripZeros]
  have hplaces : d.trim.scale.val = 0 := by
    rw [trim, if_neg h]
    simp only [hscale, stripZeros]
  rw [toBinary64, hmantissa, hplaces, Binary64.pow_zero]
  exact Binary64.isZero_div_one (Binary64.isZero_ofInt h)

end Confluence.Decimal
