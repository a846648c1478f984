import Confluence.Cell.Coerce
import Confluence.Proofs.Cell.Value

/-!
# What a cell is read as

A cell that can be read as a type is read as a cell of that type, and a cell of the type is read as
itself. So reading once more changes nothing. Integers and decimals are read as each other by value:
as an integer of some width if the value is one, and as a decimal always.
-/

namespace Confluence

/-! ### Types -/

namespace Cell

variable {c r : Cell} {t : SqlType} {f : Failure}

/-- What a cell is converted to has the type that was asked for. -/
lemma type?_of_convert? (ht : t ≠ .any) (h : c.convert? t = some r) : r.type? = some t := by
  cases t with
  | any => exact absurd rfl ht
  | boolean =>
    obtain ⟨b, -, rfl⟩ := Option.map_eq_some_iff.mp h
    rfl
  | int32 =>
    obtain ⟨n, -, h⟩ := Option.bind_eq_some_iff.mp h
    obtain ⟨m, -, rfl⟩ := Option.map_eq_some_iff.mp h
    rfl
  | int64 =>
    obtain ⟨n, -, h⟩ := Option.bind_eq_some_iff.mp h
    obtain ⟨m, -, rfl⟩ := Option.map_eq_some_iff.mp h
    rfl
  | float64 =>
    obtain ⟨x, -, rfl⟩ := Option.map_eq_some_iff.mp h
    rfl
  | decimal =>
    obtain ⟨d, -, rfl⟩ := Option.map_eq_some_iff.mp h
    rfl
  | text =>
    cases h
    rfl
  | date =>
    obtain ⟨n, -, rfl⟩ := Option.map_eq_some_iff.mp h
    rfl
  | timestamp =>
    obtain ⟨n, -, rfl⟩ := Option.map_eq_some_iff.mp h
    rfl
  | bytes =>
    obtain ⟨bs, -, rfl⟩ := Option.map_eq_some_iff.mp h
    rfl

/-- A cell is converted to its own type as it is. -/
lemma convert?_eq_self (h : r.type? = some t) : r.convert? t = some r := by
  cases r with
  | null => cases h
  | boolean b => cases h; rfl
  | int32 n =>
    cases h
    simp only [convert?, integer?, Option.bind_some, Signed.widen_val, Signed.ofInt?_val,
      Option.map_some]
  | int64 n =>
    cases h
    simp only [convert?, integer?, Option.bind_some, Signed.widen_val, Signed.ofInt?_val,
      Option.map_some]
  | float64 x => cases h; rfl
  | decimal d => cases h; rfl
  | text s =>
    cases h
    simp only [convert?, display, String.ofList_toList]
  | date n => cases h; rfl
  | timestamp n => cases h; rfl
  | bytes bs => cases h; rfl

lemma coerce_eq_ok_iff (hc : c ≠ .null) : c.coerce t = .ok r ↔ c.convert? t = some r := by
  rw [coerce, if_neg (mt isNull_eq_true_iff.mp hc)]
  cases c.convert? t <;> simp

/-- A cell that cannot be read as a type does not match it. -/
lemma eq_typeMismatch_of_coerce (h : c.coerce t = .error f) :
    f = .typeMismatch t.name c.typeName := by
  rw [coerce] at h
  split at h
  · cases h
  · split at h
    · cases h
    · cases h
      rfl

/-- Reading keeps NULL, and makes no other cell NULL. -/
lemma eq_null_iff_of_coerce (h : c.coerce t = .ok r) : r = .null ↔ c = .null := by
  constructor
  · rintro rfl
    by_contra hc
    by_cases ht : t = .any
    · subst ht
      rw [coerce_any] at h
      cases h
      exact hc rfl
    · cases type?_of_convert? ht ((coerce_eq_ok_iff hc).mp h)
  · rintro rfl
    cases h
    rfl

lemma type?_of_coerce (hc : c ≠ .null) (ht : t ≠ .any) (h : c.coerce t = .ok r) :
    r.type? = some t :=
  type?_of_convert? ht ((coerce_eq_ok_iff hc).mp h)

/-- What was read as a type is read as that type as it is. -/
lemma coerce_eq_self_of_coerce (h : c.coerce t = .ok r) : r.coerce t = .ok r := by
  by_cases hr : r = .null
  · rw [hr, coerce_null]
  · by_cases ht : t = .any
    · rw [ht, coerce_any]
    · have hc : c ≠ .null := fun hnull => hr ((eq_null_iff_of_coerce h).mpr hnull)
      exact (coerce_eq_ok_iff hr).mpr (convert?_eq_self (type?_of_coerce hc ht h))

end Cell

/-! ### Numbers -/

/-- A decimal is an integer if its value is that integer. -/
lemma Decimal.integer?_eq_some_iff_value {d : Decimal} {n : Signed 128} :
    d.integer? = some n ↔ d.value = n.val := by
  constructor
  · intro h
    rw [integer?_eq_some_iff] at h
    rw [value_eq_div, h, div_eq_iff (tenTo_cast_ne_zero 255)]
    norm_cast
  · intro h
    obtain ⟨i, hi, hval⟩ := exists_integer?_of_value h
    rw [hi, Signed.ext hval]

namespace Cell

variable {c r : Cell} {q : ℚ}

lemma integer?_eq_some_iff_exactValue? (h : c.exactValue? = some q) {n : Signed 128} :
    c.integer? = some n ↔ q = n.val := by
  obtain ⟨d, hd, rfl⟩ := exists_toDecimal?_of_exactValue? h
  rw [integer?_of_toDecimal? hd, Decimal.integer?_eq_some_iff_value]

variable {w : Nat} {mk : Signed w → Cell}

/-- An exact number is read as an integer of some width if it is one. -/
lemma narrow_eq_some_iff (hw : w ≤ 128) (h : c.exactValue? = some q) :
    (c.integer?.bind fun n => (Signed.ofInt? w n.val).map mk) = some r ↔
      ∃ m : Signed w, q = m.val ∧ mk m = r := by
  rw [Option.bind_eq_some_iff]
  constructor
  · rintro ⟨n, hn, hr⟩
    obtain ⟨m, hm, rfl⟩ := Option.map_eq_some_iff.mp hr
    rw [integer?_eq_some_iff_exactValue? h] at hn
    refine ⟨m, ?_, rfl⟩
    rw [hn, Signed.ofInt?_eq_some_iff.mp hm]
  · rintro ⟨m, hq, rfl⟩
    have hn : c.integer? = some (m.widen hw) := (integer?_eq_some_iff_exactValue? h).mpr hq
    refine ⟨m.widen hw, hn, ?_⟩
    rw [Signed.widen_val, Signed.ofInt?_val, Option.map_some]

/-- Whether there is an integer of some width to be read is a question of the value alone. -/
lemma exists_narrow_iff :
    (∃ r, ∃ m : Signed w, q = m.val ∧ mk m = r) ↔ ∃ n : ℤ, q = n ∧ Signed.Fits w n := by
  constructor
  · rintro ⟨r, m, hm, -⟩
    exact ⟨m.val, hm, m.fits⟩
  · rintro ⟨n, hn, hfits⟩
    exact ⟨mk ⟨n, hfits⟩, ⟨n, hfits⟩, hn, rfl⟩

lemma ne_null_of_exactValue? (h : c.exactValue? = some q) : c ≠ .null := by
  rintro rfl
  cases h

lemma coerce_int32_eq_ok_iff (h : c.exactValue? = some q) :
    c.coerce .int32 = .ok r ↔ ∃ m : Signed 32, q = m.val ∧ .int32 m = r := by
  rw [coerce_eq_ok_iff (ne_null_of_exactValue? h), convert?, narrow_eq_some_iff (by decide) h]

lemma coerce_int64_eq_ok_iff (h : c.exactValue? = some q) :
    c.coerce .int64 = .ok r ↔ ∃ m : Signed 64, q = m.val ∧ .int64 m = r := by
  rw [coerce_eq_ok_iff (ne_null_of_exactValue? h), convert?, narrow_eq_some_iff (by decide) h]

/-- An exact number is read as the decimal that it is. -/
lemma coerce_decimal_of_toDecimal? {d : Decimal} (h : c.toDecimal? = some d) :
    c.coerce .decimal = .ok (.decimal d) := by
  cases c with
  | int32 n => cases h; rfl
  | int64 n => cases h; rfl
  | decimal d => cases h; rfl
  | _ => cases h

/-- Integers and decimals are read as each other without loss. One of them is read as an integer of
32 or 64 bits exactly if its value is such an integer, and always as a decimal; what is read has the
same value, and what cannot be read does not match the type. -/
theorem exact_number_read_without_loss (h : c.exactValue? = some q) :
    ((∃ r, c.coerce .int32 = .ok r) ↔ ∃ n : ℤ, q = n ∧ -2 ^ 31 ≤ n ∧ n < 2 ^ 31) ∧
      ((∃ r, c.coerce .int64 = .ok r) ↔ ∃ n : ℤ, q = n ∧ -2 ^ 63 ≤ n ∧ n < 2 ^ 63) ∧
      (∃ d, c.coerce .decimal = .ok (.decimal d)) ∧
      (∀ t ∈ [SqlType.int32, .int64, .decimal], ∀ r, c.coerce t = .ok r →
        r.type? = some t ∧ r.exactValue? = some q) ∧
      ∀ t f, c.coerce t = .error f → f = .typeMismatch t.name c.typeName := by
  obtain ⟨d, hd, hvalue⟩ := exists_toDecimal?_of_exactValue? h
  have hdecimal := coerce_decimal_of_toDecimal? hd
  refine ⟨?_, ?_, ⟨d, hdecimal⟩, ?_, fun t f => eq_typeMismatch_of_coerce⟩
  · simp only [coerce_int32_eq_ok_iff h]
    exact exists_narrow_iff
  · simp only [coerce_int64_eq_ok_iff h]
    exact exists_narrow_iff
  · intro t ht r hr
    have htype : r.type? = some t := by
      refine type?_of_coerce (ne_null_of_exactValue? h) ?_ hr
      rintro rfl
      simp at ht
    refine ⟨htype, ?_⟩
    simp only [List.mem_cons, List.not_mem_nil, or_false] at ht
    rcases ht with rfl | rfl | rfl
    · obtain ⟨m, rfl, rfl⟩ := (coerce_int32_eq_ok_iff h).mp hr
      rfl
    · obtain ⟨m, rfl, rfl⟩ := (coerce_int64_eq_ok_iff h).mp hr
      rfl
    · rw [hdecimal] at hr
      cases hr
      exact congrArg some hvalue

/-- A decimal with three places at the lower end of 32 bits. -/
theorem exact_number_read_at_lower_end :
    let c : Cell := .decimal ⟨⟨-2147483648000, by decide⟩, 3⟩
    let q : ℚ := -2147483648
    c.exactValue? = some q ∧
      ((∃ r, c.coerce .int32 = .ok r) ↔ ∃ n : ℤ, q = n ∧ -2 ^ 31 ≤ n ∧ n < 2 ^ 31) ∧
      ((∃ r, c.coerce .int64 = .ok r) ↔ ∃ n : ℤ, q = n ∧ -2 ^ 63 ≤ n ∧ n < 2 ^ 63) ∧
      (∃ d, c.coerce .decimal = .ok (.decimal d)) ∧
      (∀ t ∈ [SqlType.int32, .int64, .decimal], ∀ r, c.coerce t = .ok r →
        r.type? = some t ∧ r.exactValue? = some q) ∧
      ∀ t f, c.coerce t = .error f → f = .typeMismatch t.name c.typeName := by
  intro c q
  have h : c.exactValue? = some q := by decide +kernel
  exact ⟨h, exact_number_read_without_loss h⟩

end Cell

end Confluence
