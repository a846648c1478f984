import Confluence.Proofs.Cell.Place
import Mathlib.Algebra.BigOperators.Ring.List
import Mathlib.Algebra.Order.BigOperators.Group.List
import Mathlib.Data.List.Induction

/-!
# Exact sums of decimals

The sum of some decimals has the largest of their scales. If their magnitudes add up to less than
`2^127` at that scale, then so do those of any part of them, so no order of adding them overflows
and every order comes to the same decimal.
-/

namespace Confluence.Decimal

/-- The mantissa of a decimal at a scale that is not below its own. -/
def mantissaAt (scale : Nat) (d : Decimal) : Int :=
  d.mantissa.val * (tenTo (scale - d.scale.val) : Nat)

/-- The largest scale among some decimals. -/
def largestScale (ds : List Decimal) : Nat := (ds.map (·.scale.val)).foldl max 0

/-- The sum of some decimals, as a mantissa at a scale. -/
def totalAt (scale : Nat) (ds : List Decimal) : Int := (ds.map (mantissaAt scale)).sum

/-- The sum of the magnitudes of some decimals, as a mantissa at a scale. -/
def magnitudeAt (scale : Nat) (ds : List Decimal) : Nat :=
  (ds.map fun d => (d.mantissaAt scale).natAbs).sum

/-- Whether some decimals can be added in any order. -/
def AddsUp (ds : List Decimal) : Prop := magnitudeAt (largestScale ds) ds < twoTo 127

/-- The exact sum of some decimals. -/
structure IsSum (ds : List Decimal) (d : Decimal) : Prop where
  scale_eq : d.scale.val = largestScale ds
  mantissa_eq : d.mantissa.val = totalAt (largestScale ds) ds

instance (ds : List Decimal) : Decidable (AddsUp ds) := inferInstanceAs (Decidable (_ < _))

variable {a b c d e : Decimal} {ds es : List Decimal} {s t : Nat}

/-! ### Mantissas at a scale -/

lemma mantissaAt_scale (d : Decimal) : d.mantissaAt d.scale.val = d.mantissa.val := by
  simp [mantissaAt]

lemma mantissaAt_eq_mul (hd : d.scale.val ≤ s) (hs : s ≤ t) :
    d.mantissaAt t = d.mantissaAt s * (tenTo (t - s) : Nat) := by
  rw [mantissaAt, mantissaAt, show t - d.scale.val = (s - d.scale.val) + (t - s) by omega, tenTo_add,
    Int.natCast_mul, Int.mul_assoc]

lemma natAbs_mantissaAt_le (hd : d.scale.val ≤ s) (hs : s ≤ t) :
    (d.mantissaAt s).natAbs ≤ (d.mantissaAt t).natAbs := by
  rw [mantissaAt_eq_mul hd hs, Int.natAbs_mul, Int.natAbs_natCast]
  exact Nat.le_mul_of_pos_right _ (tenTo_pos _)

/-! ### Largest scales -/

lemma largestScale_append_singleton (ds : List Decimal) (d : Decimal) :
    largestScale (ds ++ [d]) = max (largestScale ds) d.scale.val := by
  simp [largestScale]

lemma scale_le_largestScale (h : d ∈ ds) : d.scale.val ≤ largestScale ds := by
  induction ds using List.reverseRecOn with
  | nil => cases h
  | append_singleton ds e ih =>
    rw [largestScale_append_singleton]
    rcases List.mem_append.mp h with h | h
    · exact le_max_of_le_left (ih h)
    · rw [List.mem_singleton.mp h]
      exact le_max_right _ _

lemma largestScale_le (h : ∀ d ∈ ds, d.scale.val ≤ s) : largestScale ds ≤ s := by
  induction ds using List.reverseRecOn with
  | nil => exact Nat.zero_le s
  | append_singleton ds e ih =>
    rw [List.forall_mem_append, List.forall_mem_singleton] at h
    rw [largestScale_append_singleton]
    exact max_le (ih h.1) h.2

lemma largestScale_eq_zero (h : ∀ d ∈ ds, d.scale.val = 0) : largestScale ds = 0 :=
  Nat.le_zero.mp (largestScale_le fun d hd => (h d hd).le)

lemma largestScale_append (ds es : List Decimal) :
    largestScale (ds ++ es) = max (largestScale ds) (largestScale es) := by
  induction es using List.reverseRecOn with
  | nil =>
    rw [List.append_nil]
    exact (Nat.max_eq_left (Nat.zero_le _)).symm
  | append_singleton es e ih =>
    rw [← List.append_assoc, largestScale_append_singleton, ih, largestScale_append_singleton,
      Nat.max_assoc]

lemma largestScale_perm (h : ds.Perm es) : largestScale ds = largestScale es :=
  (h.map _).foldl_eq 0

lemma totalAt_perm (h : ds.Perm es) (s : Nat) : totalAt s ds = totalAt s es :=
  (h.map _).sum_eq

/-! ### Totals -/

lemma totalAt_append_singleton (s : Nat) (ds : List Decimal) (d : Decimal) :
    totalAt s (ds ++ [d]) = totalAt s ds + d.mantissaAt s := by
  simp [totalAt]

lemma magnitudeAt_append_singleton (s : Nat) (ds : List Decimal) (d : Decimal) :
    magnitudeAt s (ds ++ [d]) = magnitudeAt s ds + (d.mantissaAt s).natAbs := by
  simp [magnitudeAt]

lemma totalAt_eq_mul (hds : ∀ d ∈ ds, d.scale.val ≤ s) (hs : s ≤ t) :
    totalAt t ds = totalAt s ds * (tenTo (t - s) : Nat) := by
  rw [totalAt, totalAt, ← List.sum_map_mul_right]
  exact congrArg List.sum (List.map_congr_left fun d hd => mantissaAt_eq_mul (hds d hd) hs)

lemma natAbs_totalAt_le (s : Nat) (ds : List Decimal) :
    (totalAt s ds).natAbs ≤ magnitudeAt s ds := by
  induction ds using List.reverseRecOn with
  | nil => exact Nat.le_refl 0
  | append_singleton ds d ih =>
    rw [totalAt_append_singleton, magnitudeAt_append_singleton]
    exact Nat.le_trans (Int.natAbs_add_le _ _) (Nat.add_le_add_right ih _)

lemma magnitudeAt_le (hds : ∀ d ∈ ds, d.scale.val ≤ s) (hs : s ≤ t) :
    magnitudeAt s ds ≤ magnitudeAt t ds :=
  List.sum_le_sum fun d hd => natAbs_mantissaAt_le (hds d hd) hs

/-- What can be added in any order can be added without some of it. -/
lemma AddsUp.sublist (h : AddsUp ds) (hsub : es.Sublist ds) : AddsUp es := by
  have hscale : largestScale es ≤ largestScale ds :=
    largestScale_le fun d hd => scale_le_largestScale (hsub.mem hd)
  have hrescale : magnitudeAt (largestScale es) es ≤ magnitudeAt (largestScale ds) es :=
    magnitudeAt_le (fun d hd => scale_le_largestScale hd) hscale
  have hmore : magnitudeAt (largestScale ds) es ≤ magnitudeAt (largestScale ds) ds :=
    (hsub.map _).sum_le_sum fun _ _ => Nat.zero_le _
  exact Nat.lt_of_le_of_lt (Nat.le_trans hrescale hmore) h

lemma AddsUp.perm (hds : AddsUp ds) (h : ds.Perm es) : AddsUp es := by
  have hmagnitude (s : Nat) : magnitudeAt s ds = magnitudeAt s es := (h.map _).sum_eq
  rwa [AddsUp, ← largestScale_perm h, ← hmagnitude]

/-! ### Adding -/

lemma exists_rescale? {n : Signed 128} {k : Nat}
    (h : (n.val * (tenTo k : Nat)).natAbs < Signed.bound 128) :
    ∃ m, rescale? n k = some m ∧ m.val = n.val * (tenTo k : Nat) := by
  rw [rescale?]
  by_cases hzero : n.val = 0
  · exact ⟨n, if_pos hzero, by simp [hzero]⟩
  · -- the power is not above the product
    have hpower : tenTo k ≤ (n.val * (tenTo k : Nat)).natAbs := by
      rw [Int.natAbs_mul, Int.natAbs_natCast]
      exact Nat.le_mul_of_pos_left _ (Int.natAbs_pos.mpr hzero)
    have hfits : Signed.Fits 128 (tenTo k : Nat) := by
      apply Signed.fits_of_natAbs_lt
      rw [Int.natAbs_natCast]
      exact Nat.lt_of_le_of_lt hpower h
    rw [if_neg hzero, if_pos hfits]
    exact ⟨⟨_, Signed.fits_of_natAbs_lt h⟩, Signed.ofInt?_eq_some_iff.mpr rfl, rfl⟩

/-- A sum of two decimals that does not overflow is exact. -/
lemma of_add?_eq_some (h : a.add? b = some c) : c.scale.val = max a.scale.val b.scale.val ∧
    c.mantissa.val = a.mantissaAt c.scale.val + b.mantissaAt c.scale.val := by
  rw [add?] at h
  simp only [Option.bind_eq_some_iff, Option.map_eq_some_iff] at h
  obtain ⟨x, hx, y, hy, sum, hsum, rfl⟩ := h
  refine ⟨?_, ?_⟩
  · simp only
    split
    next hle => exact (Nat.max_eq_right hle).symm
    next hle => exact (Nat.max_eq_left (Nat.le_of_not_le hle)).symm
  · simp only [Signed.ofInt?_eq_some_iff.mp hsum, rescale?_eq_some hx, rescale?_eq_some hy]
    rfl

/-- Two decimals whose magnitudes stay below `2^127` at some scale can be added. -/
lemma exists_add? (ha : a.scale.val ≤ s) (hb : b.scale.val ≤ s)
    (h : (a.mantissaAt s).natAbs + (b.mantissaAt s).natAbs < Signed.bound 128) :
    ∃ c, a.add? b = some c := by
  obtain ⟨t, ht⟩ : ∃ t : Scale, t = if a.scale ≤ b.scale then b.scale else a.scale := ⟨_, rfl⟩
  have hle : a.scale.val ≤ t.val ∧ b.scale.val ≤ t.val ∧ t.val ≤ s := by
    rw [ht]
    split
    next hle => exact ⟨hle, Nat.le_refl _, hb⟩
    next hle => exact ⟨Nat.le_refl _, Nat.le_of_not_le hle, ha⟩
  have hax := natAbs_mantissaAt_le hle.1 hle.2.2
  have hbx := natAbs_mantissaAt_le hle.2.1 hle.2.2
  obtain ⟨x, hx, hxval⟩ := exists_rescale? (n := a.mantissa) (k := t.val - a.scale.val) (by
    rw [← mantissaAt]
    omega)
  obtain ⟨y, hy, hyval⟩ := exists_rescale? (n := b.mantissa) (k := t.val - b.scale.val) (by
    rw [← mantissaAt]
    omega)
  rw [← mantissaAt] at hxval hyval
  have hsum : (x.val + y.val).natAbs < Signed.bound 128 := by
    rw [hxval, hyval]
    omega
  have hfits : Signed.ofInt? 128 (x.val + y.val) = some ⟨_, Signed.fits_of_natAbs_lt hsum⟩ :=
    Signed.ofInt?_eq_some_iff.mpr rfl
  simp only [add?, ← ht, hx, hy, Option.bind_some, hfits, Option.map_some]
  exact ⟨_, rfl⟩

/-! ### Sums -/

lemma isSum_singleton (d : Decimal) : IsSum [d] d := by
  have hscale : largestScale [d] = d.scale.val := Nat.max_eq_right (Nat.zero_le _)
  refine ⟨hscale.symm, ?_⟩
  rw [hscale, totalAt, List.map_singleton, List.sum_singleton, mantissaAt_scale]

/-- A sum at a scale that is not below those of its parts. -/
lemma IsSum.mantissaAt_eq (h : IsSum ds d) (hs : largestScale ds ≤ s) :
    d.mantissaAt s = totalAt s ds := by
  rw [totalAt_eq_mul (fun e he => scale_le_largestScale he) hs, ← h.mantissa_eq, mantissaAt,
    h.scale_eq]

/-- One more decimal is added exactly. -/
lemma IsSum.exists_add? (h : IsSum ds d) (hb : AddsUp (ds ++ [e])) :
    ∃ c, d.add? e = some c ∧ IsSum (ds ++ [e]) c := by
  rw [AddsUp, magnitudeAt_append_singleton] at hb
  have hscale := largestScale_append_singleton ds e
  have hle : largestScale ds ≤ largestScale (ds ++ [e]) := by
    rw [hscale]
    exact le_max_left _ _
  have hd : d.scale.val ≤ largestScale (ds ++ [e]) := by rwa [h.scale_eq]
  have htotal := h.mantissaAt_eq hle
  have hmagnitude := natAbs_totalAt_le (largestScale (ds ++ [e])) ds
  obtain ⟨c, hc⟩ := Decimal.exists_add? (b := e) hd
    (scale_le_largestScale (List.mem_append_right ds (List.mem_singleton_self e))) (by
      rw [htotal]
      exact Nat.lt_of_le_of_lt (Nat.add_le_add_right hmagnitude _) hb)
  obtain ⟨hcscale, hcval⟩ := of_add?_eq_some hc
  rw [h.scale_eq, ← hscale] at hcscale
  refine ⟨c, hc, hcscale, ?_⟩
  rw [hcval, hcscale, htotal, totalAt_append_singleton]

/-- All orders of adding some decimals come to one sum. -/
lemma IsSum.eq_of_perm (hd : IsSum ds d) (he : IsSum es e) (h : ds.Perm es) : d = e := by
  have hscale : d.scale = e.scale := by
    rw [Fin.ext_iff, hd.scale_eq, he.scale_eq, largestScale_perm h]
  have hmantissa : d.mantissa = e.mantissa := by
    rw [Signed.ext_iff, hd.mantissa_eq, he.mantissa_eq, largestScale_perm h, totalAt_perm h]
  cases d
  cases e
  cases hscale
  cases hmantissa
  rfl

/-! ### Sums of sums -/

section Parts

variable {parts : List (List Decimal)}

/-- The sums of some parts come to the total of all of them, with no more magnitude. -/
lemma totals_of_sums (h : List.Forall₂ IsSum parts ds) :
    largestScale ds = largestScale parts.flatten ∧ ∀ s, largestScale parts.flatten ≤ s →
      totalAt s ds = totalAt s parts.flatten ∧
        magnitudeAt s ds ≤ magnitudeAt s parts.flatten := by
  induction h with
  | nil => exact ⟨rfl, fun _ _ => ⟨rfl, Nat.le_refl _⟩⟩
  | @cons part d parts ds hpart _ ih =>
    obtain ⟨hscale, htotals⟩ := ih
    have hd : largestScale [d] = largestScale part :=
      (Nat.max_eq_right (Nat.zero_le _)).trans hpart.scale_eq
    rw [List.flatten_cons, ← List.singleton_append (l := ds), largestScale_append,
      largestScale_append, hd, hscale]
    refine ⟨rfl, fun s hs => ?_⟩
    obtain ⟨htotal, hmagnitude⟩ := htotals s (le_of_max_le_right hs)
    have hmantissa := hpart.mantissaAt_eq (le_of_max_le_left hs)
    constructor
    · simp only [totalAt, List.map_append, List.sum_append] at htotal ⊢
      rw [htotal, List.map_singleton, List.sum_singleton, hmantissa, totalAt]
    · have hle := natAbs_totalAt_le s part
      rw [← hmantissa] at hle
      simp only [magnitudeAt, List.map_append, List.sum_append, List.map_singleton,
        List.sum_singleton] at hmagnitude hle ⊢
      exact Nat.add_le_add hle hmagnitude

/-- If all parts can be added in any order, then so can their sums. -/
lemma AddsUp.of_sums (h : AddsUp parts.flatten) (hparts : List.Forall₂ IsSum parts ds) :
    AddsUp ds := by
  obtain ⟨hscale, htotals⟩ := totals_of_sums hparts
  rw [AddsUp, hscale]
  exact Nat.lt_of_le_of_lt (htotals _ (Nat.le_refl _)).2 h

/-- The sum of the sums of some parts is the sum of all of them. -/
lemma IsSum.flatten (h : IsSum ds d) (hparts : List.Forall₂ IsSum parts ds) :
    IsSum parts.flatten d := by
  obtain ⟨hscale, htotals⟩ := totals_of_sums hparts
  refine ⟨h.scale_eq.trans hscale, ?_⟩
  rw [h.mantissa_eq, hscale, (htotals _ (Nat.le_refl _)).1]

end Parts

/-! ### Quotients -/

/-- Whether a dividend that is shifted to the left for a quotient with `places` digits, or the power
of ten that shifts it, leaves 128 bits. -/
def Overflows (d : Decimal) (places : Scale) : Prop :=
  d.scale.val ≤ places.val + 1 ∧
    (¬ Signed.Fits 128 (10 ^ (places.val + 1 - d.scale.val)) ∨
      ¬ Signed.Fits 128 (d.mantissa.val * 10 ^ (places.val + 1 - d.scale.val)))

instance (d : Decimal) (places : Scale) : Decidable (d.Overflows places) :=
  inferInstanceAs (Decidable (_ ∧ _))

lemma shifted?_eq_none_iff {places : Scale} : shifted? d places = none ↔ d.Overflows places := by
  have hpower (k : Nat) : ((tenTo k : Nat) : Int) = 10 ^ k := Int.natCast_pow 10 k
  rw [shifted?, Overflows]
  by_cases hle : d.scale.val ≤ places.val + 1
  · simp only [hle, if_true, hpower, true_and]
    split
    next hfits => rw [Signed.ofInt?_eq_none_iff, or_iff_right (not_not.mpr hfits)]
    next hfits => exact iff_of_true rfl (Or.inl hfits)
  · rw [if_neg hle]
    refine iff_of_false ?_ fun h => hle h.1
    simp only
    split <;> exact Option.some_ne_none _

/-- There is no quotient by zero, nor one of a dividend that overflows, but there is any other. -/
lemma divRound?_eq_none_iff {n : Signed 128} {places : Scale} :
    d.divRound? n places = none ↔ n.val = 0 ∨ d.Overflows places := by
  rw [divRound?]
  split
  next hzero => exact iff_of_true rfl (Or.inl hzero)
  next hn => rw [Option.map_eq_none_iff, shifted?_eq_none_iff, or_iff_right hn]

/-- Whether the quotient that is to be rounded, one digit longer than asked for, lies strictly between
`-2^127` and `2^127`, if one is computed. -/
def QuotientFits (d : Decimal) (divisor : Signed 128) (places : Scale) : Prop :=
  ∀ s, shifted? d places = some s → (s.val.tdiv divisor.val).natAbs < Signed.bound 128

instance (d : Decimal) (divisor : Signed 128) (places : Scale) :
    Decidable (d.QuotientFits divisor places) :=
  decidable_of_iff (((shifted? d places).all fun s =>
    decide ((s.val.tdiv divisor.val).natAbs < Signed.bound 128)) = true) (by
      simp [QuotientFits, Option.all_eq_true])

/-- A sum whose quotient by an integer does not overflow at a number of places. -/
def Divides (ds : List Decimal) (places : Scale) : Prop :=
  (totalAt (largestScale ds) ds).natAbs * tenTo (places.val + 1) <
      twoTo 127 * tenTo (largestScale ds) ∧
    places.val + 1 ≤ largestScale ds + 38

instance (ds : List Decimal) (places : Scale) : Decidable (Divides ds places) :=
  inferInstanceAs (Decidable (_ ∧ _))

/-- Such a sum can be shifted to the left for its quotient. -/
lemma IsSum.natAbs_mul_lt (h : IsSum ds d) {places : Scale} (hdiv : Divides ds places)
    (hle : d.scale.val ≤ places.val + 1) :
    (d.mantissa.val * 10 ^ (places.val + 1 - d.scale.val)).natAbs < Signed.bound 128 := by
  have hbound := hdiv.1
  rw [← h.mantissa_eq, ← h.scale_eq,
    show places.val + 1 = (places.val + 1 - d.scale.val) + d.scale.val by omega, tenTo_add,
    ← Nat.mul_assoc] at hbound
  rw [Int.natAbs_mul, Int.natAbs_pow]
  exact Nat.lt_of_mul_lt_mul_right hbound

lemma IsSum.exists_divRound? (h : IsSum ds d) {places : Scale} (hdiv : Divides ds places)
    {n : Signed 128} (hn : n.val ≠ 0) : ∃ q, d.divRound? n places = some q := by
  rw [← Option.ne_none_iff_exists', Ne, divRound?_eq_none_iff, or_iff_right hn]
  rintro ⟨hle, hpower | hproduct⟩
  · have hplaces := hdiv.2
    rw [← h.scale_eq] at hplaces
    apply hpower
    apply Signed.fits_of_natAbs_lt
    rw [Int.natAbs_pow]
    exact Nat.lt_of_le_of_lt (tenTo_le_tenTo (n := 38) (by omega)) (by decide)
  · exact hproduct (Signed.fits_of_natAbs_lt (h.natAbs_mul_lt hdiv hle))

/-- The quotient of such a sum is in range as well: a shift to the right drops a digit at least. -/
lemma IsSum.quotientFits (h : IsSum ds d) {places : Scale} (hdiv : Divides ds places)
    (n : Signed 128) : d.QuotientFits n places := by
  intro s hs
  have hle : (s.val.tdiv n.val).natAbs ≤ s.val.natAbs := by
    rw [Int.natAbs_tdiv]
    exact Nat.div_le_self _ _
  refine Nat.lt_of_le_of_lt hle ?_
  rw [shifted?] at hs
  split at hs
  next hscale =>
    simp only [Option.ite_none_right_eq_some, Signed.ofInt?_eq_some_iff] at hs
    have hpower : ((tenTo (places.val + 1 - d.scale.val) : Nat) : Int) =
        10 ^ (places.val + 1 - d.scale.val) := Int.natCast_pow 10 _
    rw [hs.2, hpower]
    exact h.natAbs_mul_lt hdiv hscale
  next hscale =>
    simp only at hs
    split at hs
    · cases hs
      have hten : 10 ≤ tenTo (d.scale.val - (places.val + 1)) :=
        tenTo_le_tenTo (m := 1) (by omega)
      have hmantissa := d.mantissa.natAbs_le
      have hpos : 0 < Signed.bound 128 := by decide
      rw [Int.natAbs_tdiv, Int.natAbs_natCast]
      refine (Nat.div_lt_iff_lt_mul (by omega)).mpr ?_
      exact Nat.lt_of_lt_of_le (by omega) (Nat.mul_le_mul_left _ hten)
    · cases hs
      decide

end Confluence.Decimal
