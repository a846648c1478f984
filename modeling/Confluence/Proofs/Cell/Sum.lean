import Confluence.Cell.Sum
import Confluence.Proofs.Cell.Value

/-!
# Sums of two cells

The sum of two cells does not depend on which of them comes first. Two integers have an integer sum,
or a decimal one where 64 bits do not hold it. With a decimal the sum is exact at the larger of the
two scales, as long as both mantissas and their sum fit there, and only where one of them does not is
the sum a float.
-/

namespace Confluence

/-! ### Floats -/

namespace Binary64

lemma add_comm (x y : Binary64) : x + y = y + x := by
  change x.add y = y.add x
  cases x with
  | nan => cases y <;> rfl
  | infinity a =>
    cases y with
    | nan => rfl
    | finite b n l _ => rfl
    | infinity b =>
      by_cases hab : a = b
      · rw [hab]
      · rw [add, add, if_neg hab, if_neg (Ne.symm hab)]
  | finite a m k _ =>
    cases y with
    | nan => rfl
    | infinity b => rfl
    | finite b n l _ =>
      simp only [add]
      rw [Int.add_comm, Bool.and_comm]

end Binary64

/-! ### Decimals -/

namespace Decimal

variable {a b c : Decimal}

/-- Whether two decimals and their sum fit in 128 bits at the larger of the two scales. -/
structure SumFits (a b : Decimal) : Prop where
  left : Signed.Fits 128 (a.mantissaAt (max a.scale.val b.scale.val))
  right : Signed.Fits 128 (b.mantissaAt (max a.scale.val b.scale.val))
  sum : Signed.Fits 128 (a.mantissaAt (max a.scale.val b.scale.val) +
    b.mantissaAt (max a.scale.val b.scale.val))

lemma SumFits.symm (h : a.SumFits b) : b.SumFits a := by
  obtain ⟨hleft, hright, hsum⟩ := h
  rw [max_comm] at hleft hright hsum
  exact ⟨hright, hleft, Int.add_comm _ _ ▸ hsum⟩

/-- That the power of ten has to fit too makes no difference: a mantissa that is not zero is not
smaller for being multiplied by it. -/
lemma rescale?_eq_ofInt? (n : Signed 128) (k : Nat) :
    rescale? n k = Signed.ofInt? 128 (n.val * (tenTo k : Nat)) := by
  cases h : rescale? n k with
  | some m => exact (Signed.ofInt?_eq_some_iff.mpr (rescale?_eq_some h)).symm
  | none =>
    symm
    rw [Signed.ofInt?_eq_none_iff, Signed.Fits]
    rcases rescale?_eq_none h with ⟨-, hbound⟩ | ⟨-, hbound⟩ <;> omega

/-- There is a sum of two decimals as long as no mantissa overflows. -/
lemma exists_add?_iff : (∃ c, a.add? b = some c) ↔ a.SumFits b := by
  obtain ⟨s, hs, hval⟩ : ∃ s : Scale, s = (if a.scale ≤ b.scale then b.scale else a.scale) ∧
      max a.scale.val b.scale.val = s.val := by
    refine ⟨_, rfl, ?_⟩
    split
    next hle => exact Nat.max_eq_right hle
    next hle => exact Nat.max_eq_left (Nat.le_of_not_le hle)
  simp only [add?, ← hs, rescale?_eq_ofInt?, ← mantissaAt.eq_1, Option.bind_eq_some_iff,
    Option.map_eq_some_iff, Signed.ofInt?_eq_some_iff]
  constructor
  · rintro ⟨c, x, hx, y, hy, sum, hsum, -⟩
    rw [hx, hy] at hsum
    constructor <;> rw [hval]
    · exact hx ▸ x.fits
    · exact hy ▸ y.fits
    · exact hsum ▸ sum.fits
  · rintro ⟨hleft, hright, hsum⟩
    rw [hval] at hleft hright hsum
    exact ⟨_, ⟨_, hleft⟩, rfl, ⟨_, hright⟩, rfl, ⟨_, hsum⟩, rfl, rfl⟩

lemma add?_eq_none_iff : a.add? b = none ↔ ¬ a.SumFits b := by
  rw [← exists_add?_iff, ← Option.ne_none_iff_exists', not_not]

/-- Integers of 64 bits are far from overflowing. -/
lemma sumFits_ofSigned (m n : Signed 64) :
    (ofSigned m (by decide)).SumFits (ofSigned n (by decide)) := by
  constructor
  · simpa [mantissaAt, ofSigned] using (m.widen (by decide : 64 ≤ 128)).fits
  · simpa [mantissaAt, ofSigned] using (n.widen (by decide : 64 ≤ 128)).fits
  · simpa [mantissaAt, ofSigned] using Signed.fits_add_64 m n

lemma add?_comm (a b : Decimal) : a.add? b = b.add? a := by
  cases hab : a.add? b with
  | none =>
    rw [add?_eq_none_iff] at hab
    exact (add?_eq_none_iff.mpr fun h => hab h.symm).symm
  | some c =>
    cases hba : b.add? a with
    | none => exact absurd (exists_add?_iff.mp ⟨c, hab⟩).symm (add?_eq_none_iff.mp hba)
    | some d =>
      obtain ⟨hc, hcval⟩ := of_add?_eq_some hab
      obtain ⟨hd, hdval⟩ := of_add?_eq_some hba
      have hscale : c.scale = d.scale := Fin.ext (by rw [hc, hd, max_comm])
      have hmantissa : c.mantissa = d.mantissa :=
        Signed.ext (by rw [hcval, hdval, hscale, Int.add_comm])
      cases c
      cases d
      cases hscale
      cases hmantissa
      rfl

/-- The sum of two decimals stands for the sum of their numbers. -/
lemma value_of_add? (h : a.add? b = some c) : c.value = a.value + b.value := by
  obtain ⟨hscale, hmantissa⟩ := of_add?_eq_some h
  refine mul_right_cancel₀ (tenTo_cast_ne_zero c.scale.val) ?_
  have ha : a.scale.val ≤ c.scale.val := (le_max_left _ _).trans_eq hscale.symm
  have hb : b.scale.val ≤ c.scale.val := (le_max_right _ _).trans_eq hscale.symm
  rw [add_mul, value_mul_of_scale_le ha, value_mul_of_scale_le hb, value_mul_of_scale_le le_rfl,
    mantissaAt_scale, hmantissa, Int.cast_add]

end Decimal

/-! ### Cells -/

namespace Cell

variable {a b c v x : Cell} {d e : Decimal} {m n : Signed 64}

lemma exactValue?_of_toDecimal? (h : v.toDecimal? = some d) : v.exactValue? = some d.value := by
  cases v <;> cases h <;> simp [exactValue?]

lemma exactValue?_eq_none_iff : v.exactValue? = none ↔ v.toDecimal? = none := by
  cases v <;> simp [exactValue?, toDecimal?]

/-- An exact number is a decimal or an integer. -/
lemma isDecimal_or_exists_toInt64? (h : v.toDecimal? = some d) : v.type? = some .decimal ∨
    ∃ n : Signed 64, v.toInt64? = some n ∧ d = .ofSigned n (by decide) := by
  cases v with
  | int32 n =>
    cases h
    exact Or.inr ⟨_, rfl, rfl⟩
  | int64 n =>
    cases h
    exact Or.inr ⟨_, rfl, rfl⟩
  | decimal d => exact Or.inl rfl
  | _ => cases h

/-- Two integers are added as integers. -/
lemma add?_of_toInt64? (ha : a.toInt64? = some m) (hb : b.toInt64? = some n) :
    a.add? b = some (addIntegers m n) := by
  cases a <;> cases ha <;> cases b <;> cases hb <;> rfl

/-- Exact cells are added as decimals as soon as one of them is a decimal. -/
lemma add?_of_decimal (ha : a.toDecimal? = some d) (hb : b.toDecimal? = some e)
    (h : a.type? = some .decimal ∨ b.type? = some .decimal) :
    a.add? b = some (addDecimals d e) := by
  cases a <;> cases ha <;> cases b <;> cases hb <;> first | rfl | simp [type?] at h

/-- Exact cells are added as integers or as decimals. -/
lemma add?_of_toDecimal? (hx : x.toDecimal? = some d) (hv : v.toDecimal? = some e) :
    x.add? v = some (addDecimals d e) ∨
      ∃ m n : Signed 64, x.add? v = some (addIntegers m n) ∧ d = .ofSigned m (by decide) ∧
        e = .ofSigned n (by decide) := by
  rcases isDecimal_or_exists_toInt64? hx with hdecimal | ⟨m, hm, hd⟩
  · exact Or.inl (add?_of_decimal hx hv (Or.inl hdecimal))
  · rcases isDecimal_or_exists_toInt64? hv with hdecimal | ⟨n, hn, he⟩
    · exact Or.inl (add?_of_decimal hx hv (Or.inr hdecimal))
    · exact Or.inr ⟨m, n, add?_of_toInt64? hm hn, hd, he⟩

lemma toDecimal?_addIntegers {s : Decimal}
    (h : (Decimal.ofSigned m (by decide)).add? (Decimal.ofSigned n (by decide)) = some s) :
    (addIntegers m n).toDecimal? = some s := by
  obtain ⟨hscale, hmantissa⟩ := Decimal.of_add?_eq_some h
  have hs : s = ⟨⟨m.val + n.val, Signed.fits_add_64 m n⟩, ⟨0, by decide⟩⟩ := by
    have hzero : s.scale.val = 0 := hscale
    rw [hzero] at hmantissa
    obtain ⟨mantissa, scale⟩ := s
    congr 1
    · ext
      simpa [Decimal.mantissaAt, Decimal.ofSigned] using hmantissa
    · exact Fin.ext hzero
  rw [addIntegers, hs]
  split
  next k hk =>
    have hk' : k.val = m.val + n.val := Signed.ofInt?_eq_some_iff.mp hk
    simp only [toDecimal?, Decimal.ofSigned, Signed.widen, hk']
  · rfl

/-- Exact cells whose values can be added are added exactly. -/
lemma exists_add? {s : Decimal} (hx : x.toDecimal? = some d) (hv : v.toDecimal? = some e)
    (h : d.add? e = some s) : ∃ y, x.add? v = some y ∧ y.toDecimal? = some s := by
  rcases add?_of_toDecimal? hx hv with hadd | ⟨m, n, hadd, rfl, rfl⟩
  · exact ⟨_, hadd, by rw [addDecimals, h]; rfl⟩
  · exact ⟨_, hadd, toDecimal?_addIntegers h⟩

lemma addIntegers_comm (m n : Signed 64) : addIntegers m n = addIntegers n m := by
  simp only [addIntegers, Int.add_comm]

lemma addDecimals_comm (d e : Decimal) : addDecimals d e = addDecimals e d := by
  rw [addDecimals, addDecimals, Decimal.add?_comm, Binary64.add_comm]

/-- There is no sum with a cell that is no number. -/
lemma add?_eq_none_of_family? (h : a.family? ≠ some .numeric ∨ b.family? ≠ some .numeric) :
    a.add? b = none := by
  cases a <;> cases b <;> first | rfl | simp [family?] at h

/-- Which of two exact cells comes first makes no difference to their sum. -/
lemma add?_comm_of_toDecimal? (ha : a.toDecimal? = some d) (hb : b.toDecimal? = some e) :
    a.add? b = b.add? a := by
  by_cases h : a.type? = some .decimal ∨ b.type? = some .decimal
  · rw [add?_of_decimal ha hb h, add?_of_decimal hb ha h.symm, addDecimals_comm]
  · rw [not_or] at h
    obtain ⟨m, hm, -⟩ := (isDecimal_or_exists_toInt64? ha).resolve_left h.1
    obtain ⟨n, hn, -⟩ := (isDecimal_or_exists_toInt64? hb).resolve_left h.2
    rw [add?_of_toInt64? hm hn, add?_of_toInt64? hn hm, addIntegers_comm]

/-- What the sum `n` of two integers is to be: an integer of 64 bits if it fits there, and else a
decimal without places. -/
inductive IsIntegerSum (n : ℤ) : Cell → Prop
  | int64 {r : Signed 64} (h : r.val = n) : IsIntegerSum n (.int64 r)
  | decimal {r : Signed 128} (hwide : ¬ Signed.Fits 64 n) (h : r.val = n) :
    IsIntegerSum n (.decimal ⟨r, 0⟩)

/-- What the sum of two exact numbers is to be if one of them is a decimal: exact at the larger of
the scales as long as it fits there, and else a float. -/
inductive IsDecimalSum (d e : Decimal) : Cell → Prop
  | exact {r : Decimal} (hfits : d.SumFits e) (hscale : r.scale.val = max d.scale.val e.scale.val)
      (h : r.mantissa.val = d.mantissaAt r.scale.val + e.mantissaAt r.scale.val) :
    IsDecimalSum d e (.decimal r)
  | rounded (h : ¬ d.SumFits e) :
    IsDecimalSum d e (.float64 (d.trim.toBinary64 + e.trim.toBinary64))

lemma isIntegerSum_addIntegers (m n : Signed 64) :
    IsIntegerSum (m.val + n.val) (addIntegers m n) := by
  rw [addIntegers]
  split
  next r hr => exact .int64 (Signed.ofInt?_eq_some_iff.mp hr)
  next hwide => exact .decimal (Signed.ofInt?_eq_none_iff.mp hwide) rfl

lemma isDecimalSum_addDecimals (d e : Decimal) : IsDecimalSum d e (addDecimals d e) := by
  rw [addDecimals]
  cases h : d.add? e with
  | none => exact .rounded (Decimal.add?_eq_none_iff.mp h)
  | some r =>
    obtain ⟨hscale, hmantissa⟩ := Decimal.of_add?_eq_some h
    exact .exact (Decimal.exists_add?_iff.mp ⟨r, h⟩) hscale hmantissa

/-- A sum that is no float is exact. -/
lemma exactValue?_of_add? (ha : a.toDecimal? = some d) (hb : b.toDecimal? = some e)
    (h : a.add? b = some c) (hc : c.type? ≠ some .float64) :
    c.exactValue? = some (d.value + e.value) := by
  have hsum : ∃ s, d.add? e = some s := by
    rcases add?_of_toDecimal? ha hb with hadd | ⟨m, n, -, rfl, rfl⟩
    · obtain rfl := Option.some.inj (h.symm.trans hadd)
      rw [addDecimals] at hc
      cases hs : d.add? e with
      | some s => exact ⟨s, rfl⟩
      | none =>
        rw [hs] at hc
        exact absurd rfl hc
    · exact Decimal.exists_add?_iff.mpr (Decimal.sumFits_ofSigned m n)
  obtain ⟨s, hs⟩ := hsum
  obtain ⟨y, hy, hys⟩ := exists_add? ha hb hs
  obtain rfl := Option.some.inj (h.symm.trans hy)
  rw [exactValue?_of_toDecimal? hys, Decimal.value_of_add? hs]

/-- What the sum of two cells that are no floats is to be like. -/
structure AddsExactly (a b : Cell) : Prop where
  comm : a.add? b = b.add? a
  eq_none_iff : a.add? b = none ↔ a.exactValue? = none ∨ b.exactValue? = none
  of_integers : ∀ m n, a.toInt64? = some m → b.toInt64? = some n →
    ∃ c, a.add? b = some c ∧ IsIntegerSum (m.val + n.val) c
  of_decimals : ∀ d e, a.toDecimal? = some d → b.toDecimal? = some e →
    a.type? = some .decimal ∨ b.type? = some .decimal → ∃ c, a.add? b = some c ∧ IsDecimalSum d e c
  value_eq : ∀ c p q, a.add? b = some c → c.type? ≠ some .float64 → a.exactValue? = some p →
    b.exactValue? = some q → c.exactValue? = some (p + q)

/-- Cells that are no floats have one sum whichever comes first, none unless both are numbers, and an
exact one as long as it fits. -/
theorem addsExactly_of_exact (ha : a.type? ≠ some .float64) (hb : b.type? ≠ some .float64) :
    a.AddsExactly b := by
  have hnone {v : Cell} (hv : v.type? ≠ some .float64) (h : v.exactValue? = none) :
      v.family? ≠ some .numeric := by
    intro hnumeric
    obtain ⟨d, hd⟩ := exists_toDecimal? hv hnumeric
    rw [exactValue?_of_toDecimal? hd] at h
    cases h
  have hsome (h : ¬ (a.exactValue? = none ∨ b.exactValue? = none)) :
      ∃ d e, a.toDecimal? = some d ∧ b.toDecimal? = some e := by
    rw [not_or, exactValue?_eq_none_iff, exactValue?_eq_none_iff, ← Ne, ← Ne,
      Option.ne_none_iff_exists', Option.ne_none_iff_exists'] at h
    obtain ⟨⟨d, hd⟩, e, he⟩ := h
    exact ⟨d, e, hd, he⟩
  constructor
  · by_cases h : a.exactValue? = none ∨ b.exactValue? = none
    · have h := h.imp (hnone ha) (hnone hb)
      rw [add?_eq_none_of_family? h, add?_eq_none_of_family? h.symm]
    · obtain ⟨d, e, hd, he⟩ := hsome h
      exact add?_comm_of_toDecimal? hd he
  · constructor
    · intro hadd
      by_contra h
      obtain ⟨d, e, hd, he⟩ := hsome h
      rcases add?_of_toDecimal? hd he with hadd' | ⟨m, n, hadd', -, -⟩
      · rw [hadd'] at hadd
        cases hadd
      · rw [hadd'] at hadd
        cases hadd
    · intro h
      exact add?_eq_none_of_family? (h.imp (hnone ha) (hnone hb))
  · intro m n hm hn
    exact ⟨_, add?_of_toInt64? hm hn, isIntegerSum_addIntegers m n⟩
  · intro d e hd he h
    exact ⟨_, add?_of_decimal hd he h, isDecimalSum_addDecimals d e⟩
  · intro c p q hadd hc hp hq
    obtain ⟨d, hd, rfl⟩ := exists_toDecimal?_of_exactValue? hp
    obtain ⟨e, he, rfl⟩ := exists_toDecimal?_of_exactValue? hq
    exact exactValue?_of_add? hd he hadd hc

/-- The largest integer of 64 bits does not fit at `20` places, so no decimal of that scale can be
added to it exactly. -/
theorem addsExactly_of_distant_scales :
    let a : Cell := .int64 ⟨2 ^ 63 - 1, by decide⟩
    let b : Cell := .decimal ⟨⟨1, by decide⟩, 20⟩
    a.type? ≠ some .float64 ∧ b.type? ≠ some .float64 ∧ a.AddsExactly b := by
  intro a b
  have ha : a.type? ≠ some .float64 := by decide
  have hb : b.type? ≠ some .float64 := by decide
  exact ⟨ha, hb, addsExactly_of_exact ha hb⟩

end Cell

end Confluence
