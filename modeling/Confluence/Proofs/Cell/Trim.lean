import Confluence.Proofs.Cell.Place

/-!
# Decimals without trailing zeros

Taking trailing zeros off a decimal keeps its value, and the value determines what is left. So
decimals of one value are trimmed to one decimal, and a decimal is an integer if it is trimmed to
one.
-/

namespace Confluence.Decimal

lemma stripZeros_mul (m : Int) (s : Nat) :
    (stripZeros m s).1 * (tenTo (s - (stripZeros m s).2) : Nat) = m := by
  induction s generalizing m with
  | zero => simp [stripZeros]
  | succ s ih =>
    rw [stripZeros]
    split
    next h =>
      rw [Nat.succ_sub (stripZeros_scale_le _ _), Nat.succ_eq_add_one, tenTo_add, Int.natCast_mul,
        ← Int.mul_assoc, ih]
      exact Int.ediv_mul_cancel_of_emod_eq_zero h
    · simp

lemma stripZeros_emod (m : Int) (s : Nat) :
    (stripZeros m s).2 = 0 ∨ (stripZeros m s).1 % 10 ≠ 0 := by
  induction s generalizing m with
  | zero => exact Or.inl rfl
  | succ s ih =>
    rw [stripZeros]
    split
    · exact ih _
    next h => exact Or.inr h

variable {d e : Decimal}

lemma eq_of_mantissa_eq (hmantissa : d.mantissa.val = e.mantissa.val) (hscale : d.scale = e.scale) :
    d = e := by
  cases d
  cases e
  simp only [mk.injEq]
  exact ⟨Signed.ext hmantissa, hscale⟩

/-- Whether a decimal has no places or its last digit is not zero. -/
def IsTrimmed (d : Decimal) : Prop := d.scale.val = 0 ∨ d.mantissa.val % 10 ≠ 0

lemma isTrimmed_trim (d : Decimal) : d.trim.IsTrimmed := by
  rw [trim]
  split
  · exact Or.inl rfl
  · exact stripZeros_emod _ _

lemma units_trim (d : Decimal) : d.trim.units = d.units := by
  rw [trim]
  split
  next h => rw [units, units, h, Int.zero_mul, Int.zero_mul]
  · have hle := stripZeros_scale_le d.mantissa.val d.scale.val
    have hscale : 255 - (stripZeros d.mantissa.val d.scale.val).2 =
        (d.scale.val - (stripZeros d.mantissa.val d.scale.val).2) + (255 - d.scale.val) := by
      have := d.scale.isLt
      omega
    rw [units, units, hscale, tenTo_add, Int.natCast_mul, ← Int.mul_assoc, stripZeros_mul]

lemma IsTrimmed.scale_le (hd : d.IsTrimmed) (h : d.units = e.units) : d.scale ≤ e.scale := by
  by_contra hlt
  rw [Fin.not_le] at hlt
  have hpos : (tenTo (255 - d.scale.val) : Int) ≠ 0 := by exact_mod_cast (tenTo_pos _).ne'
  rw [units_eq_of_scale_le (Fin.le_of_lt hlt), units] at h
  have hmantissa := Int.eq_of_mul_eq_mul_right hpos h
  obtain ⟨k, hk⟩ : ∃ k, d.scale.val - e.scale.val = k + 1 :=
    Nat.exists_eq_add_one.mpr (Nat.sub_pos_of_lt hlt)
  rcases hd with hd | hd
  · have : e.scale.val < d.scale.val := hlt
    omega
  · apply hd
    rw [hmantissa, hk, tenTo_add, Int.natCast_mul, ← Int.mul_assoc]
    exact Int.mul_emod_left _ _

/-- Trimmed decimals of one value are the same decimal. -/
lemma IsTrimmed.eq_of_units_eq (hd : d.IsTrimmed) (he : e.IsTrimmed) (h : d.units = e.units) :
    d = e := by
  have hscale : d.scale = e.scale := Fin.le_antisymm (hd.scale_le h) (he.scale_le h.symm)
  have hpos : (tenTo (255 - e.scale.val) : Int) ≠ 0 := by exact_mod_cast (tenTo_pos _).ne'
  rw [units, units, hscale] at h
  exact eq_of_mantissa_eq (Int.eq_of_mul_eq_mul_right hpos h) hscale

lemma trim_eq_of_units_eq (h : d.units = e.units) : d.trim = e.trim :=
  d.isTrimmed_trim.eq_of_units_eq e.isTrimmed_trim (by rw [units_trim, units_trim, h])

lemma trim_trim (d : Decimal) : d.trim.trim = d.trim := trim_eq_of_units_eq d.units_trim

lemma scale_trim_le (d : Decimal) : d.trim.scale ≤ d.scale :=
  d.isTrimmed_trim.scale_le d.units_trim

/-- Decimals that are compared as equal are trimmed to one decimal, and no others are. -/
lemma compare_eq_eq_iff_trim_eq : d.compare e = .eq ↔ d.trim = e.trim := by
  rw [compare_eq_compare_units, Std.LawfulEqOrd.compare_eq_iff_eq]
  constructor
  · exact trim_eq_of_units_eq
  · intro h
    rw [← d.units_trim, h, e.units_trim]

/-- A decimal is an integer if its value is that integer. -/
lemma integer?_eq_some_iff {n : Signed 128} :
    d.integer? = some n ↔ d.units = n.val * (tenTo 255 : Nat) := by
  rw [integer?, ← units_trim]
  constructor
  · intro h
    split at h
    next hscale =>
      cases h
      rw [units, hscale]
    · cases h
  · intro h
    have htrim : d.trim = ofSigned n (Nat.le_refl 128) :=
      d.isTrimmed_trim.eq_of_units_eq (Or.inl rfl) h
    rw [htrim]
    rfl

end Confluence.Decimal
