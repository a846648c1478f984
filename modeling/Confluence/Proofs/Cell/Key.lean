import Confluence.Proofs.Cell.Trim
import Confluence.Proofs.Cell.Line

/-!
# Equal cells have one hash key

Equality of cells compares decimals at a common scale and floats by the integers around them, while
the key of a cell drops trailing zeros and looks for an integer first. Both agree: cells that are
equal as values are integers together, and the same one, or have the same rounded value. Outside
the floats the key also tells cells apart.
-/

namespace Confluence

/-! ### Floats -/

namespace Binary64

/-- A number of units has one representation. -/
lemma Canonical.unique {m k n l : Nat} (h : Canonical m k) (h' : Canonical n l)
    (heq : m * twoTo k = n * twoTo l) : m = n ∧ k = l := by
  wlog hle : k ≤ l generalizing m k n l with hwlog
  · obtain ⟨hm, hk⟩ := hwlog h' h heq.symm (Nat.le_of_not_le hle)
    exact ⟨hm.symm, hk.symm⟩
  obtain ⟨j, rfl⟩ := Nat.exists_eq_add_of_le hle
  rw [Nat.add_comm k j, twoTo_add, ← Nat.mul_assoc] at heq
  have hm := Nat.eq_of_mul_eq_mul_right (twoTo_pos k) heq
  rcases Nat.eq_zero_or_pos j with rfl | hj
  · exact ⟨by rw [hm, twoTo_zero, Nat.mul_one], rfl⟩
  · -- a significand of 53 bits cannot be doubled
    have hn : twoTo 52 ≤ n := h'.2.2.resolve_left (by omega)
    have hm' : m < twoTo 53 := h.1
    have hdouble : twoTo 1 ≤ twoTo j := twoTo_le_twoTo hj
    have : twoTo 53 ≤ m := calc
      twoTo 53 = twoTo 52 * twoTo 1 := twoTo_add 52 1
      _ ≤ n * twoTo j := Nat.mul_le_mul hn hdouble
      _ = m := hm.symm
    omega

/-- Finite floats of one value are the same float, up to the sign of zero. -/
lemma eq_or_isZero_of_units?_eq {x y : Binary64} {u : Int} (hx : x.units? = some u)
    (hy : y.units? = some u) : x = y ∨ (x.isZero = true ∧ y.isZero = true) := by
  cases x with
  | nan => cases hx
  | infinity a => cases hx
  | finite a m k h =>
    cases y with
    | nan => cases hy
    | infinity b => cases hy
    | finite b n l h' =>
      rw [← hx] at hy
      simp only [units?, Option.some.injEq] at hy
      have hmagnitude : m * twoTo k = n * twoTo l := by
        split at hy <;> split at hy <;> omega
      obtain ⟨rfl, rfl⟩ := h.unique h' hmagnitude
      cases m with
      | zero => exact Or.inr ⟨rfl, rfl⟩
      | succ m =>
        have hpos : 0 < (m + 1) * twoTo k := Nat.mul_pos (Nat.succ_pos m) (twoTo_pos k)
        refine Or.inl ?_
        cases a <;> cases b <;> simp only [if_true, Bool.false_eq_true, if_false] at hy
        · rfl
        · omega
        · omega
        · rfl

/-- Equal floats are the same float, up to the sign of zero. -/
lemma eq_or_isZero_of_compare?_eq {x y : Binary64} (h : x.compare? y = some .eq) :
    x = y ∨ (x.isZero = true ∧ y.isZero = true) := by
  cases x with
  | nan => cases h
  | infinity a =>
    cases y with
    | nan => cases h
    | infinity b => cases a <;> cases b <;> first | exact Or.inl rfl | cases h
    | finite b n l h' => cases a <;> cases h
  | finite a m k hm =>
    cases y with
    | nan => cases h
    | infinity b => cases b <;> cases h
    | finite b n l hn =>
      have hunits := Std.LawfulEqOrd.compare_eq_iff_eq.mp (Option.some.inj h)
      exact eq_or_isZero_of_units?_eq rfl (congrArg some hunits.symm)

lemma integer?_of_isZero {x : Binary64} (h : x.isZero = true) : x.integer? = some 0 := by
  cases x with
  | nan => cases h
  | infinity a => cases h
  | finite a m k hm =>
    cases m with
    | zero =>
      have hunits : (finite a 0 k hm).units? = some 0 := by
        rw [units?, Nat.zero_mul]
        cases a <;> rfl
      rw [integer?, hunits, Option.bind_some, Int.zero_emod, if_pos rfl, Int.zero_ediv]
    | succ m => cases h

/-- Equal floats have one key. -/
lemma ofBinary64_eq_of_compare?_eq {x y : Binary64} (h : x.compare? y = some .eq) :
    CellKey.ofBinary64 x = CellKey.ofBinary64 y := by
  rcases eq_or_isZero_of_compare?_eq h with rfl | ⟨hx, hy⟩
  · rfl
  · rw [CellKey.ofBinary64, CellKey.ofBinary64, if_pos hx, if_pos hy]

/-- The place of a float that is an integer. -/
lemma place_of_integer? {x : Binary64} {n : Int} (h : x.integer? = some n)
    (hn : n.natAbs < twoTo 127) : x.place = n * (tenTo 255 : Nat) * unitsPerOne := by
  obtain ⟨u, hu, hif⟩ := Option.bind_eq_some_iff.mp h
  have hplace : x.place = placeOfUnits u := by
    cases x with
    | finite a m k hc => cases hu; rfl
    | _ => cases hu
  split at hif
  next hmod =>
    have hmul : u = n * unitsPerOne := by
      rw [← Option.some.inj hif, Int.ediv_mul_cancel_of_emod_eq_zero hmod]
    have hsmall : u.natAbs < twoTo 127 * unitsPerOne := by
      rw [hmul, Int.natAbs_mul, Int.natAbs_natCast]
      exact Nat.mul_lt_mul_of_pos_right hn (twoTo_pos 1074)
    rw [hplace, Decimal.placeOfUnits_eq (by omega), hmul, Int.mul_right_comm]
  · cases hif

lemma integer?_eq_of_compare?_eq {x y : Binary64} (h : x.compare? y = some .eq) :
    x.integer? = y.integer? := by
  rcases eq_or_isZero_of_compare?_eq h with rfl | ⟨hx, hy⟩
  · rfl
  · rw [integer?_of_isZero hx, integer?_of_isZero hy]

end Binary64

/-! ### Decimals and floats -/

namespace Decimal

open Binary64

/-- A decimal strictly between two neighbouring integers is none. -/
lemma integer?_eq_none {d : Decimal} {n : Int} (hlow : n * (tenTo 255 : Nat) < d.units)
    (hhigh : d.units < (n + 1) * (tenTo 255 : Nat)) : d.integer? = none := by
  have hten : (0 : Int) < (tenTo 255 : Nat) := by exact_mod_cast tenTo_pos 255
  rw [Option.eq_none_iff_forall_ne_some]
  intro i hi
  rw [integer?_eq_some_iff] at hi
  rw [hi] at hlow hhigh
  have := Int.lt_of_mul_lt_mul_right hlow hten.le
  have := Int.lt_of_mul_lt_mul_right hhigh hten.le
  omega

@[simp] lemma integer?_ofSigned {w : Nat} (n : Signed w) (h : w ≤ 128) :
    (ofSigned n h).integer? = some (n.widen h) :=
  integer?_eq_some_iff.mpr (units_ofSigned n h)

lemma not_sharesUnit_of_integer? {d : Decimal} {n : Signed 128} (h : d.integer? = some n)
    (x : Binary64) : ¬ d.SharesUnit x := by
  rintro ⟨u, -, -, hlow, hhigh⟩
  rw [integer?_eq_none hlow hhigh] at h
  cases h

/-- A decimal and a float that are equal are the same integer, or both are none and the rounded
value of the decimal is the float. -/
lemma cases_of_compareBinary64?_eq {d : Decimal} {x : Binary64}
    (h : d.compareBinary64? x = some .eq) :
    (∃ n, d.integer? = some n ∧ x.integer? = some n.val ∧ n.val.natAbs < twoTo 127) ∨
      (d.integer? = none ∧ x.integer? = none ∧ d.trim.toBinary64.compare? x = some .eq) := by
  obtain ⟨u, hu⟩ : ∃ u, x.units? = some u := by
    cases x with
    | nan => cases h
    | infinity a => cases a <;> cases h
    | finite a m k hc => exact ⟨_, rfl⟩
  obtain ⟨-, ho⟩ | ⟨-, ho⟩ | ⟨hsmall, hcases⟩ := d.compareBinary64?_cases hu
  · cases h.symm.trans ho
  · cases h.symm.trans ho
  obtain ⟨hmod, ho⟩ | ⟨hmod, hcases⟩ := hcases
  · left
    obtain ⟨n, rfl⟩ : ∃ n, u = n * (unitsPerOne : Int) :=
      ⟨_, (Int.ediv_mul_cancel_of_emod_eq_zero hmod).symm⟩
    have hunit : (unitsPerOne : Int) ≠ 0 := by exact_mod_cast (twoTo_pos 1074).ne'
    have hfloor : n * unitsPerOne / (unitsPerOne : Int) = n := Int.mul_ediv_cancel _ hunit
    have hbound : n.natAbs < twoTo 127 := by
      rw [Int.natAbs_mul, Int.natAbs_natCast] at hsmall
      exact Nat.lt_of_mul_lt_mul_right hsmall
    rw [ho, hfloor, compareInt_eq, Option.some.injEq, Std.LawfulEqOrd.compare_eq_iff_eq] at h
    refine ⟨⟨n, Signed.fits_of_natAbs_lt hbound⟩, integer?_eq_some_iff.mpr h, ?_, hbound⟩
    rw [Binary64.integer?, hu, Option.bind_some, if_pos hmod, hfloor]
  · right
    obtain ⟨-, ho⟩ | ⟨-, ho⟩ | ⟨hlow, hhigh, ho⟩ := hcases
    · cases h.symm.trans ho
    · cases h.symm.trans ho
    · rw [compareInt_eq, compare_gt_iff_gt] at hlow
      rw [compareInt_eq, compare_lt_iff_lt] at hhigh
      refine ⟨integer?_eq_none hlow hhigh, ?_, ho ▸ h⟩
      rw [Binary64.integer?, hu, Option.bind_some, if_neg hmod]

end Decimal

/-! ### Cells -/

namespace Cell

variable {a b : Cell} {d e : Decimal} {x : Binary64}

/-- An exact number is the integer that it is as a decimal. -/
lemma integer?_of_toDecimal? (h : a.toDecimal? = some d) : a.integer? = d.integer? := by
  cases a <;> cases h <;> simp only [integer?, Decimal.integer?_ofSigned]

/-- The key of an exact number is that of its value as a decimal. -/
lemma key_of_toDecimal? (h : a.toDecimal? = some d) : a.key = (Cell.decimal d).key := by
  cases a <;> cases h <;> simp only [key, numericKey, integer?, Decimal.integer?_ofSigned]

lemma key_decimal_eq_of_units_eq (h : d.units = e.units) :
    (Cell.decimal d).key = (Cell.decimal e).key := by
  simp only [key, numericKey, integer?, toBinary64?, Decimal.integer?,
    Decimal.trim_eq_of_units_eq h]

/-- Two numbers have one key if they are one integer. -/
lemma numericKey_eq_of_integer? {n : Signed 128} (ha : a.integer? = some n)
    (hb : b.integer? = some n) : a.numericKey = b.numericKey := by
  rw [numericKey, numericKey, ha, hb]

lemma numericKey_of_integer?_eq_none (h : a.integer? = none) :
    a.numericKey = .ofBinary64 (a.toBinary64?.getD .nan) := by
  rw [numericKey, h]

lemma integer?_float64_of_lt {n : Signed 128} (hx : x.integer? = some n.val)
    (hn : n.val.natAbs < twoTo 127) : (Cell.float64 x).integer? = some n := by
  rw [integer?, hx, Option.bind_some, if_pos hn, Signed.ofInt?_val]

/-- A decimal has the key of each float it is equal to. -/
lemma key_decimal_eq_of_compareBinary64?_eq (h : d.compareBinary64? x = some .eq) :
    (Cell.decimal d).key = (Cell.float64 x).key := by
  rcases Decimal.cases_of_compareBinary64?_eq h with ⟨n, hd, hx, hn⟩ | ⟨hd, hx, hround⟩
  · rw [key, key]
    exact numericKey_eq_of_integer? (by rw [integer?, hd]) (integer?_float64_of_lt hx hn)
  · have hfloat : (Cell.float64 x).integer? = none := by rw [integer?, hx, Option.bind_none]
    rw [key, key, numericKey_of_integer?_eq_none (by rw [integer?, hd]),
      numericKey_of_integer?_eq_none hfloat, toBinary64?, toBinary64?, Option.getD_some,
      Option.getD_some, Binary64.ofBinary64_eq_of_compare?_eq hround]

lemma key_float64_eq_of_compare?_eq {y : Binary64} (h : x.compare? y = some .eq) :
    (Cell.float64 x).key = (Cell.float64 y).key := by
  simp only [key, numericKey, integer?, toBinary64?, Option.getD_some,
    Binary64.integer?_eq_of_compare?_eq h, Binary64.ofBinary64_eq_of_compare?_eq h]

/-- Cells at one place have one key. -/
lemma key_eq_of_place_eq (ha : a.type? ≠ some .float64) (hb : b.type? ≠ some .float64)
    (h : a.place = b.place) : a.key = b.key := by
  have hfamily := family?_eq_of_place_eq h
  by_cases hnumeric : a.family? = some .numeric
  · obtain ⟨d, hd⟩ := exists_toDecimal? ha hnumeric
    obtain ⟨e, he⟩ := exists_toDecimal? hb (hfamily.symm.trans hnumeric)
    rw [place_of_toDecimal? hd, place_of_toDecimal? he] at h
    rw [key_of_toDecimal? hd, key_of_toDecimal? he]
    exact key_decimal_eq_of_units_eq (CellPlace.mk.inj h).2.1
  · cases a with
    | null => cases b <;> first | rfl | cases hfamily
    | boolean p =>
      cases b with
      | boolean q =>
        cases p <;> cases q <;> first | rfl | cases h
      | _ => cases hfamily
    | text s =>
      cases b with
      | text t =>
        have : s.toList = t.toList := (CellPlace.mk.inj h).2.2.1
        rw [String.toList_injective this]
      | _ => cases hfamily
    | date m =>
      cases b with
      | date n => rw [Signed.ext (a := m) (b := n) (CellPlace.mk.inj h).2.1]
      | _ => cases hfamily
    | timestamp m =>
      cases b with
      | timestamp n => rw [Signed.ext (a := m) (b := n) (CellPlace.mk.inj h).2.1]
      | _ => cases hfamily
    | bytes s =>
      cases b with
      | bytes t => rw [show s = t from (CellPlace.mk.inj h).2.2.2]
      | _ => cases hfamily
    | _ => exact absurd rfl hnumeric

/-- Cells that are equal as values have one key. -/
lemma key_eq_of_sameValue (h : a.sameValue b = true) : a.key = b.key := by
  have hcompare : a.compare? b = some .eq := by simpa [sameValue] using h
  have hrank : a.familyRank = b.familyRank := by
    by_contra hne
    rw [compare?_eq_none_of_familyRank_ne hne] at hcompare
    cases hcompare
  by_cases ha : a.type? = some .float64
  · obtain ⟨x, rfl⟩ := type?_eq_float64_iff.mp ha
    by_cases hb : b.type? = some .float64
    · obtain ⟨y, rfl⟩ := type?_eq_float64_iff.mp hb
      exact key_float64_eq_of_compare?_eq hcompare
    · obtain ⟨d, hd⟩ := exists_toDecimal? hb (family?_eq_numeric_of_familyRank_eq hrank)
      rw [(compare_float_toDecimal? hd).1, Option.map_eq_some_iff] at hcompare
      obtain ⟨o, ho, hswap⟩ := hcompare
      obtain rfl : o = .eq := by cases o <;> first | rfl | cases hswap
      rw [key_of_toDecimal? hd, key_decimal_eq_of_compareBinary64?_eq ho]
  · by_cases hb : b.type? = some .float64
    · obtain ⟨y, rfl⟩ := type?_eq_float64_iff.mp hb
      obtain ⟨d, hd⟩ := exists_toDecimal? ha (family?_eq_numeric_of_familyRank_eq hrank.symm)
      rw [(compare_float_toDecimal? hd).2] at hcompare
      rw [key_of_toDecimal? hd, key_decimal_eq_of_compareBinary64?_eq hcompare]
    · have hnull : a.isNull = false := by
        cases a with
        | null => cases hcompare
        | _ => rfl
      rw [compare?_eq_some ha hb hnull hrank, Option.some.injEq,
        Std.LawfulEqCmp.compare_eq_iff_eq] at hcompare
      exact key_eq_of_place_eq ha hb hcompare

/-- Cells of one group have one key. -/
lemma key_eq_of_sameGroup (h : a.sameGroup b = true) : a.key = b.key := by
  rw [sameGroup] at h
  split at h
  next ha hb => rw [isNull_eq_true_iff.mp ha, isNull_eq_true_iff.mp hb]
  · exact key_eq_of_sameValue h
  · cases h

/-! ### Integers -/

/-- The key of a number is an integer or a float. -/
lemma numericKey_cases (c : Cell) :
    (∃ n, c.numericKey = .integer n) ∨ ∃ x, c.numericKey = .float x := by
  rw [numericKey]
  split
  · split
    next n _ => exact Or.inl ⟨n, rfl⟩
    · exact Or.inr ⟨_, rfl⟩
  · exact Or.inr ⟨_, rfl⟩

lemma integer?_of_numericKey_eq {n : Signed 64} (h : a.numericKey = .integer n) :
    a.integer? = some (n.widen (by decide)) := by
  rw [numericKey] at h
  split at h
  next i hi =>
    split at h
    next m hm =>
      cases h
      rw [hi, Option.some.injEq]
      exact Signed.ext (Signed.ofInt?_eq_some_iff.mp hm).symm
    · cases h
  · cases h

/-- Cells that are no numbers are told apart by their keys, from each other and from numbers. -/
lemma eq_of_key_eq (ha : a.family? ≠ some .numeric) (h : a.key = b.key) : a = b := by
  have hnumeric {c : Cell} (hc : c.key = c.numericKey) (hb : b = c) : False := by
    rw [hb, hc] at h
    rcases numericKey_cases c with ⟨n, hn⟩ | ⟨x, hx⟩
    · rw [hn] at h
      cases a <;> first | cases h | exact ha rfl
    · rw [hx] at h
      cases a <;> first | cases h | exact ha rfl
  cases b with
  | int32 n => exact (hnumeric rfl rfl).elim
  | int64 n => exact (hnumeric rfl rfl).elim
  | float64 x => exact (hnumeric rfl rfl).elim
  | decimal d => exact (hnumeric rfl rfl).elim
  | _ => cases a <;> first | exact absurd rfl ha | (cases h <;> rfl)

lemma exists_integer_of_key (ha : a.family? = some .numeric) (hx : ∀ x, a.key ≠ .float x) :
    ∃ n, a.key = .integer n ∧ a.numericKey = .integer n := by
  have hkey : a.key = a.numericKey := by cases a <;> first | rfl | cases ha
  rw [hkey] at hx ⊢
  obtain ⟨n, hn⟩ := (numericKey_cases a).resolve_right fun ⟨x, h⟩ => hx x h
  exact ⟨n, hn, hn⟩

lemma numericKey_of_key_eq_integer {n : Signed 64} (h : a.key = .integer n) :
    a.family? = some .numeric ∧ a.numericKey = .integer n := by
  cases a <;> first | exact ⟨rfl, h⟩ | cases h

lemma sameValue_of_place {p : CellPlace} (h : a.compare? b = some (CellPlace.compare p p)) :
    a.sameValue b = true := by
  have hself : CellPlace.compare p p = .eq := Std.ReflCmp.compare_self
  rw [sameValue, h, hself]
  rfl

/-- The place of a number that is an integer. -/
lemma linePlace_of_integer? {n : Signed 128} (ha : a.family? = some .numeric)
    (h : a.integer? = some n) : a.linePlace =
      { rank := 2, number := n.val * (tenTo 255 : Nat) * Binary64.unitsPerOne } := by
  by_cases hfloat : a.type? = some .float64
  · obtain ⟨x, rfl⟩ := type?_eq_float64_iff.mp hfloat
    obtain ⟨m, hm, hif⟩ := Option.bind_eq_some_iff.mp h
    split at hif
    next hlt =>
      obtain rfl := Signed.ofInt?_eq_some_iff.mp hif
      rw [linePlace, Binary64.place_of_integer? hm hlt]
    · cases hif
  · obtain ⟨d, hd⟩ := exists_toDecimal? hfloat ha
    rw [integer?_of_toDecimal? hd, Decimal.integer?_eq_some_iff] at h
    rw [linePlace_of_toDecimal? hd, h]

lemma not_sharesUnit_of_integer? {n : Signed 128} (ha : a.integer? = some n)
    (hb : b.integer? = some n) : ¬ a.SharesUnit b := by
  intro h
  unfold SharesUnit at h
  split at h
  · obtain ⟨d, hd, hshares⟩ := h
    exact Decimal.not_sharesUnit_of_integer? ((integer?_of_toDecimal? hd).symm.trans hb) _ hshares
  · obtain ⟨d, hd, hshares⟩ := h
    exact Decimal.not_sharesUnit_of_integer? ((integer?_of_toDecimal? hd).symm.trans ha) _ hshares
  · exact h

/-- Numbers that are one integer are equal. -/
lemma sameValue_of_integer? {n : Signed 128} (ha : a.family? = some .numeric)
    (hb : b.family? = some .numeric) (hai : a.integer? = some n) (hbi : b.integer? = some n) :
    a.sameValue b = true := by
  have hnaN {c : Cell} (hc : c.integer? = some n) : c ≠ .float64 .nan := by
    rintro rfl
    cases hc
  have hnull : a.isNull = false := by
    cases a <;> first | rfl | cases ha
  have hrank : a.familyRank = b.familyRank := by rw [familyRank, familyRank, ha, hb]
  apply sameValue_of_place
  rw [compare?_eq_linePlace (hnaN hai) (hnaN hbi) (not_sharesUnit_of_integer? hai hbi) hnull hrank,
    linePlace_of_integer? ha hai, linePlace_of_integer? hb hbi]

/-- Outside the floats and NULL, cells with one key are equal as values. -/
lemma sameValue_of_key_eq (h : a.key = b.key) (hn : a.isNull = false)
    (hx : ∀ x, a.key ≠ .float x) : a.sameValue b = true := by
  by_cases ha : a.family? = some .numeric
  · obtain ⟨n, hkey, han⟩ := exists_integer_of_key ha hx
    obtain ⟨hb, hbn⟩ := numericKey_of_key_eq_integer (h.symm.trans hkey)
    exact sameValue_of_integer? ha hb (integer?_of_numericKey_eq han) (integer?_of_numericKey_eq hbn)
  · obtain rfl := eq_of_key_eq ha h
    have hfloat : a.type? ≠ some .float64 := by
      rw [Ne, type?_eq_float64_iff]
      rintro ⟨x, rfl⟩
      exact ha rfl
    exact sameValue_of_place (compare?_eq_some hfloat hfloat hn rfl)

end Cell

/-! ### Hashers -/

/-- Outside the floats, what a key writes shows the key. -/
lemma CellKey.eq_of_writes_eq {k l : CellKey} (h : k.writes = l.writes)
    (hk : ∀ x, k ≠ .float x) : k = l := by
  cases k with
  | float x => exact absurd rfl (hk x)
  | boolean p =>
    cases l with
    | boolean q => cases p <;> cases q <;> first | rfl | simp [writes] at h
    | _ => simp [writes] at h
  | _ => cases l <;> simp_all [writes]

namespace GroupKey

/-- Keys of one group are hashed alike. -/
lemma hashForm_eq_of_same {k l : GroupKey} (h : k.same l = true) : k.hashForm = l.hashForm := by
  induction k generalizing l with
  | nil =>
    cases l with
    | nil => rfl
    | cons b l => cases h
  | cons a k ih =>
    cases l with
    | nil => cases h
    | cons b l =>
      rw [same, Bool.and_eq_true] at h
      rw [hashForm, hashForm, List.map_cons, List.map_cons, Cell.key_eq_of_sameGroup h.1]
      exact congrArg _ (ih h.2)

lemma writes_eq_of_hashForm_eq {k l : GroupKey} (h : k.hashForm = l.hashForm) :
    k.writes = l.writes := by
  have hlength : k.length = l.length := by
    simpa only [hashForm, List.length_map] using congrArg List.length h
  rw [writes, writes, h, hlength]

end GroupKey

/-- Equal cells write the same into a hasher, and so do keys of one group, where NULL is the same
as NULL. What is written tells apart all cells that are not equal, except for floats. -/
theorem writes_eq_of_equal :
    (∀ a b : Cell, a.sameValue b = true → a.key.writes = b.key.writes) ∧
    (∀ k l : GroupKey, k.same l = true → k.writes = l.writes) ∧
    ∀ a b : Cell, a.key.writes = b.key.writes → a.isNull = false → (∀ x, a.key ≠ .float x) →
      a.sameValue b = true := by
  refine ⟨fun a b h => ?_, fun k l h => ?_, fun a b h hn hx => ?_⟩
  · rw [Cell.key_eq_of_sameValue h]
  · exact GroupKey.writes_eq_of_hashForm_eq (GroupKey.hashForm_eq_of_same h)
  · exact Cell.sameValue_of_key_eq (CellKey.eq_of_writes_eq h hx) hn hx

/-- A decimal that only rounds to a float writes the same as the float, keys of mixed types write
the same where both have NULL, and an integer is equal to the decimal that writes the same. -/
theorem writes_eq_of_tenths :
    (Cell.decimal ⟨⟨10000000000000001, by decide⟩, 17⟩).key.writes =
      (Cell.float64 (.ofBits 0x3fb999999999999a)).key.writes ∧
    GroupKey.writes [.decimal ⟨⟨150, by decide⟩, 2⟩, .null, .float64 (.zero true)] =
      GroupKey.writes [.float64 (.ofBits 0x3ff8000000000000), .null, .int32 ⟨0, by decide⟩] ∧
    (Cell.int32 ⟨2, by decide⟩).sameValue (.decimal ⟨⟨200, by decide⟩, 2⟩) = true :=
  ⟨writes_eq_of_equal.1 _ _ (by decide +kernel),
    writes_eq_of_equal.2.1 _ _ (by decide +kernel),
    writes_eq_of_equal.2.2 _ _ (by decide +kernel) rfl fun _ => by
      rw [show Cell.key _ = .integer ⟨2, by decide⟩ from by decide +kernel]
      exact CellKey.noConfusion⟩

end Confluence
