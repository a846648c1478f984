import Confluence.Cell.Coerce
import Confluence.Proofs.Number.Digits

/-!
# Numerals of decimals

A numeral is an optional sign and at least one digit, with at most one point before, among or
behind the digits. The text of every decimal is a numeral, and reading it gives the decimal back.
What is read as a decimal is a numeral, but for one slip: a sign directly behind a leading point
counts as the sign of the number and as one of its places.
-/

namespace Confluence

namespace Text

lemma isBlank_of_isDigit {c : Char} (h : Digits.isDigit c = true) : isBlank c = false := by
  obtain ⟨hlow, hhigh⟩ := Digits.isDigit_iff.mp h
  simp only [isBlank, Bool.or_eq_false_iff, Bool.and_eq_false_iff, decide_eq_false_iff_not]
  omega

lemma trimStart_eq_self {s : List Char} (h : ∀ c ∈ s, isBlank c = false) : trimStart s = s := by
  cases s with
  | nil => rfl
  | cons c s =>
    rw [trimStart, List.dropWhile_cons, h c List.mem_cons_self, if_neg Bool.false_ne_true]

/-- Nothing is taken off the ends of a text without blanks. -/
lemma trim_eq_self {s : List Char} (h : ∀ c ∈ s, isBlank c = false) : trim s = s := by
  rw [trim, trimStart_eq_self h, trimStart_eq_self fun c hc => h c (List.mem_reverse.mp hc),
    List.reverse_reverse]

end Text

namespace Decimal

/-! ### The cut at the first point -/

/-- The point and what stands behind it, if there is a point. -/
def behindPoint : Option (List Char) → List Char
  | none => []
  | some ds => '.' :: ds

/-- Every text is cut at its first point. -/
lemma exists_cut (s : List Char) : ∃ (whole : List Char) (fraction : Option (List Char)),
    '.' ∉ whole ∧ s = whole ++ behindPoint fraction := by
  by_cases h : '.' ∈ s
  · obtain ⟨whole, fraction, rfl, hwhole⟩ := List.eq_append_cons_of_mem h
    exact ⟨whole, some fraction, hwhole, rfl⟩
  · exact ⟨s, none, h, (List.append_nil s).symm⟩

variable {s whole : List Char} {fraction : Option (List Char)} {d : Decimal}

lemma takeWhile_of_cut (h : '.' ∉ whole) :
    (whole ++ behindPoint fraction).takeWhile (· ≠ '.') = whole := by
  have hall : ∀ c ∈ whole, decide (c ≠ '.') = true := fun c hc =>
    decide_eq_true (ne_of_mem_of_not_mem hc h)
  rw [List.takeWhile_append_of_pos hall]
  cases fraction with
  | none => exact List.append_nil whole
  | some ds => exact List.append_nil whole

lemma drop_dropWhile_of_cut (h : '.' ∉ whole) :
    ((whole ++ behindPoint fraction).dropWhile (· ≠ '.')).drop 1 = fraction.getD [] := by
  have hall : ∀ c ∈ whole, decide (c ≠ '.') = true := fun c hc =>
    decide_eq_true (ne_of_mem_of_not_mem hc h)
  rw [List.dropWhile_append_of_pos hall]
  cases fraction with
  | none => rfl
  | some ds => rfl

/-- What is read from a text that is cut: the integer of both sides, with the places of the
second. -/
lemma ofText?_of_cut (h : '.' ∉ whole) (hcut : Text.trim s = whole ++ behindPoint fraction) :
    ofText? s = some d ↔ Digits.toInt? (whole ++ fraction.getD []) = some d.mantissa.val ∧
      (fraction.getD []).length = d.scale.val := by
  simp only [ofText?, hcut, takeWhile_of_cut h, drop_dropWhile_of_cut h]
  constructor
  · intro hd
    split at hd
    next hlt =>
      obtain ⟨n, hn, hd⟩ := Option.bind_eq_some_iff.mp hd
      obtain ⟨m, hm, rfl⟩ := Option.map_eq_some_iff.mp hd
      exact ⟨hn.trans (congrArg some (Signed.ofInt?_eq_some_iff.mp hm).symm), rfl⟩
    next => cases hd
  · rintro ⟨hn, hplaces⟩
    have hlt : (fraction.getD []).length < 256 := hplaces ▸ d.scale.isLt
    rw [dif_pos hlt, hn, Option.bind_some, Signed.ofInt?_val, Option.map_some]
    exact congrArg (fun scale => some (Decimal.mk d.mantissa scale)) (Fin.ext hplaces)

/-! ### Numerals -/

/-- An optional sign and at least one digit, with at most one point before, among or behind the
digits. -/
structure Numeral where
  sign : DigitSign
  whole : List Char
  fraction : Option (List Char)
  allDigits : Digits.AllDigits (whole ++ fraction.getD [])
  ne_nil : whole ++ fraction.getD [] ≠ []

namespace Numeral

def text (x : Numeral) : List Char := x.sign.text ++ x.whole ++ behindPoint x.fraction

/-- All digits, those before the point and those behind it. -/
def digits (x : Numeral) : List Char := x.whole ++ x.fraction.getD []

/-- The integer that the sign and all digits form. -/
def integer (x : Numeral) : Int := x.sign.apply (Digits.toNat x.digits)

/-- The number of digits behind the point. -/
def places (x : Numeral) : Nat := (x.fraction.getD []).length

lemma not_mem_front (x : Numeral) : '.' ∉ x.sign.text ++ x.whole := by
  intro h
  rcases List.mem_append.mp h with h | h
  · cases DigitSign.mem_text h <;> contradiction
  · exact (Digits.ne_of_isDigit (x.allDigits _ (List.mem_append_left _ h))).2.2 rfl

lemma mem_text {x : Numeral} {c : Char} (h : c ∈ x.text) :
    c = '+' ∨ c = '-' ∨ c = '.' ∨ Digits.isDigit c = true := by
  rw [text, List.mem_append, List.mem_append] at h
  rcases h with (h | h) | h
  · exact (DigitSign.mem_text h).imp_right Or.inl
  · exact Or.inr (Or.inr (Or.inr (x.allDigits c (List.mem_append_left _ h))))
  · have hdigits := x.allDigits
    cases hfraction : x.fraction with
    | none =>
      rw [hfraction] at h
      cases h
    | some ds =>
      rw [hfraction] at h hdigits
      cases h with
      | head => exact Or.inr (Or.inr (Or.inl rfl))
      | tail _ h => exact Or.inr (Or.inr (Or.inr (hdigits c (List.mem_append_right _ h))))

@[simp] lemma trim_text (x : Numeral) : Text.trim x.text = x.text := by
  refine Text.trim_eq_self fun c hc => ?_
  rcases mem_text hc with rfl | rfl | rfl | h
  · rfl
  · rfl
  · rfl
  · exact Text.isBlank_of_isDigit h

/-- A numeral is read as its integer with its places. -/
lemma ofText?_eq_some_iff (x : Numeral) (h : Text.trim s = x.text) :
    ofText? s = some d ↔ d.mantissa.val = x.integer ∧ d.scale.val = x.places := by
  have hread : Digits.toInt? (x.sign.text ++ x.whole ++ x.fraction.getD []) = some x.integer :=
    Digits.toInt?_eq_some_iff.mpr
      ⟨x.sign, x.digits, List.append_assoc _ _ _, x.ne_nil, x.allDigits, rfl⟩
  rw [ofText?_of_cut x.not_mem_front h, hread, Option.some.injEq]
  exact and_congr eq_comm eq_comm

end Numeral

/-! ### What is read as a decimal -/

/-- A leading point, a sign directly behind it and digits. -/
def SignBehindPoint (t : List Char) : Prop :=
  ∃ (sign : DigitSign) (ds : List Char), sign ≠ .none ∧ t = '.' :: (sign.text ++ ds) ∧ ds ≠ [] ∧
    Digits.AllDigits ds

lemma SignBehindPoint.ne_text {t : List Char} (h : SignBehindPoint t) (x : Numeral) :
    t ≠ x.text := by
  rintro rfl
  obtain ⟨sign, ds, hsign, heq, -, -⟩ := h
  -- A numeral that begins with a point has nothing in front of it, and only digits behind it.
  have hfront : x.sign.text ++ x.whole = [] := by
    by_contra hne
    obtain ⟨c, front, hcons⟩ := List.exists_cons_of_ne_nil hne
    rw [Numeral.text, hcons] at heq
    have hpoint := x.not_mem_front
    rw [hcons, (List.cons.inj heq).1] at hpoint
    exact hpoint List.mem_cons_self
  have hdigits := x.allDigits
  rw [Numeral.text, hfront, List.nil_append] at heq
  cases hfraction : x.fraction with
  | none =>
    rw [hfraction] at heq
    cases heq
  | some fraction =>
    rw [hfraction] at heq hdigits
    rw [(List.cons.inj heq).2] at hdigits
    cases sign with
    | none => exact hsign rfl
    | plus => exact absurd (hdigits '+' (List.mem_append_right _ List.mem_cons_self)) (by decide)
    | minus => exact absurd (hdigits '-' (List.mem_append_right _ List.mem_cons_self)) (by decide)

/-- A text that is read as a decimal is a numeral or has a sign behind its leading point. -/
lemma exists_numeral_of_ofText? (h : ofText? s = some d) :
    (∃ x : Numeral, Text.trim s = x.text) ∨ SignBehindPoint (Text.trim s) := by
  obtain ⟨whole, fraction, hwhole, hcut⟩ := exists_cut (Text.trim s)
  rw [ofText?_of_cut hwhole hcut] at h
  obtain ⟨sign, ds, heq, hne, hdigits, -⟩ := Digits.toInt?_eq_some_iff.mp h.1
  rw [hcut]
  rcases List.append_eq_append_iff.mp heq with ⟨rest, hrest, hfraction⟩ | ⟨rest, hrest, rfl⟩
  · cases rest with
    | nil =>
      rw [List.append_nil] at hrest
      rw [List.nil_append] at hfraction
      refine Or.inl ⟨⟨sign, [], fraction, hfraction ▸ hdigits, hfraction ▸ hne⟩, ?_⟩
      rw [← hrest, Numeral.text, List.append_nil]
    | cons c rest =>
      have hnil : whole = [] := sign.eq_nil_of_text_eq hrest
      cases fraction with
      | none => cases hfraction
      | some fraction =>
        refine Or.inr ⟨sign, ds, ?_, ?_, hne, hdigits⟩
        · rintro rfl
          cases hnil ▸ hrest
        · have hbehind : fraction = c :: rest ++ ds := hfraction
          rw [hrest, hnil, hbehind]
          rfl
  · refine Or.inl ⟨⟨sign, rest, fraction, hdigits, hne⟩, ?_⟩
    rw [hrest]
    rfl

/-- What a sign behind a leading point is read as. -/
lemma ofText?_of_signBehindPoint {sign : DigitSign} {ds : List Char}
    (h : Text.trim s = '.' :: (sign.text ++ ds)) (hne : ds ≠ []) (hdigits : Digits.AllDigits ds) :
    ofText? s = some d ↔ d.mantissa.val = sign.apply (Digits.toNat ds) ∧
      d.scale.val = (sign.text ++ ds).length := by
  have hcut : Text.trim s = [] ++ behindPoint (some (sign.text ++ ds)) := h
  have hread : Digits.toInt? ([] ++ (some (sign.text ++ ds)).getD []) =
      some (sign.apply (Digits.toNat ds)) :=
    Digits.toInt?_eq_some_iff.mpr ⟨sign, ds, rfl, hne, hdigits, rfl⟩
  rw [ofText?_of_cut List.not_mem_nil hcut, hread, Option.some.injEq]
  exact and_congr eq_comm eq_comm

/-- Text is read as a decimal exactly if it is a numeral, between blanks, with at most 255 places
and an integer that fits, and it is read as that integer with these places; what a sign behind a
leading point is read as is left open. -/
theorem reads_exactly_numerals (h : ¬ SignBehindPoint (Text.trim s)) :
    ((ofText? s).isSome = true ↔ ∃ x : Numeral, Text.trim s = x.text ∧ x.places ≤ 255 ∧
      Signed.Fits 128 x.integer) ∧
    ∀ x : Numeral, Text.trim s = x.text → ∀ d, ofText? s = some d →
      d.mantissa.val = x.integer ∧ d.scale.val = x.places := by
  refine ⟨⟨fun hsome => ?_, ?_⟩, fun x hx d => (x.ofText?_eq_some_iff hx).mp⟩
  · obtain ⟨d, hd⟩ := Option.isSome_iff_exists.mp hsome
    obtain ⟨x, hx⟩ := (exists_numeral_of_ofText? hd).resolve_right h
    obtain ⟨hinteger, hplaces⟩ := (x.ofText?_eq_some_iff hx).mp hd
    exact ⟨x, hx, hplaces ▸ Nat.le_of_lt_succ d.scale.isLt, hinteger ▸ d.mantissa.fits⟩
  · rintro ⟨x, hx, hplaces, hfits⟩
    have hread : ofText? s = some ⟨⟨x.integer, hfits⟩, ⟨x.places, Nat.lt_succ_of_le hplaces⟩⟩ :=
      (x.ofText?_eq_some_iff hx).mpr ⟨rfl, rfl⟩
    rw [hread]
    rfl

theorem reads_amount_between_blanks :
    ¬ SignBehindPoint (Text.trim [' ', '-', '1', '2', '.', '5', '0', ' ']) ∧
    (ofText? [' ', '-', '1', '2', '.', '5', '0', ' ']).isSome = true ∧
    ∀ d, ofText? [' ', '-', '1', '2', '.', '5', '0', ' '] = some d →
      d.mantissa.val = -1250 ∧ d.scale.val = 2 := by
  have htrim : Text.trim [' ', '-', '1', '2', '.', '5', '0', ' '] =
      ['-', '1', '2', '.', '5', '0'] := rfl
  have hsign : ¬ SignBehindPoint (Text.trim [' ', '-', '1', '2', '.', '5', '0', ' ']) := by
    rintro ⟨sign, ds, -, heq, -, -⟩
    exact absurd (List.cons.inj (htrim.symm.trans heq)).1 (by decide)
  obtain ⟨hsome, hread⟩ := reads_exactly_numerals hsign
  let x : Numeral := ⟨.minus, ['1', '2'], some ['5', '0'], by decide, by decide⟩
  have hfits : Signed.Fits 128 x.integer := Signed.fits_of_natAbs_lt (by decide)
  exact ⟨hsign, hsome.mpr ⟨x, htrim, by decide, hfits⟩, hread x htrim⟩

/-- A sign behind a leading point counts as a place, and makes no numeral of the text. -/
theorem sign_behind_point_is_read :
    ofText? ['.', '-', '5'] = some ⟨⟨-5, Signed.fits_of_natAbs_lt (by decide)⟩, 2⟩ ∧
    ∀ x : Numeral, Text.trim ['.', '-', '5'] ≠ x.text := by
  have hne : ['5'] ≠ [] := by decide
  have htrim : Text.trim ['.', '-', '5'] = '.' :: (DigitSign.minus.text ++ ['5']) := by decide
  have hdigits : Digits.AllDigits ['5'] := by decide
  exact ⟨(ofText?_of_signBehindPoint htrim hne hdigits).mpr ⟨rfl, rfl⟩,
    SignBehindPoint.ne_text ⟨.minus, ['5'], by decide, htrim, hne, hdigits⟩⟩

/-! ### The text of a decimal -/

/-- The text of a decimal is a numeral of its mantissa with its places. -/
lemma exists_numeral_text (d : Decimal) : ∃ x : Numeral, d.text = x.text ∧
    d.mantissa.val = x.integer ∧ d.scale.val = x.places := by
  obtain ⟨sign, hinteger, hsign⟩ := Digits.exists_sign d.mantissa.val
  suffices hparts : ∃ (whole : List Char) (fraction : Option (List Char)),
      d.text = sign.text ++ (whole ++ behindPoint fraction) ∧
      Digits.AllDigits (whole ++ fraction.getD []) ∧ whole ++ fraction.getD [] ≠ [] ∧
      Digits.toNat (whole ++ fraction.getD []) = d.mantissa.val.natAbs ∧
      (fraction.getD []).length = d.scale.val by
    obtain ⟨whole, fraction, htext, hdigits, hne, hvalue, hplaces⟩ := hparts
    exact ⟨⟨sign, whole, fraction, hdigits, hne⟩, htext.trans (List.append_assoc _ _ _).symm,
      (hinteger.symm.trans (congrArg sign.apply hvalue.symm)), hplaces.symm⟩
  have hdigits := Digits.allDigits_ofNat d.mantissa.val.natAbs
  have hne := Digits.ofNat_ne_nil d.mantissa.val.natAbs
  have hvalue := Digits.toNat_ofNat d.mantissa.val.natAbs
  simp only [text, Digits.ofInt, hsign]
  generalize Digits.ofNat d.mantissa.val.natAbs = ds at hdigits hne hvalue
  split
  next hscale =>
    refine ⟨ds, none, ?_, ?_⟩
    · rw [behindPoint, List.append_nil]
    · rw [Option.getD_none, List.append_nil]
      exact ⟨hdigits, hne, hvalue, hscale.symm⟩
  next hscale =>
    split
    next hle =>
      -- Zeros fill the places in front of the digits, and one more stands before the point.
      refine ⟨['0'], some (List.replicate (d.scale.val - ds.length) '0' ++ ds), rfl, ?_⟩
      have hzeros : ['0'] ++ (List.replicate (d.scale.val - ds.length) '0' ++ ds) =
          List.replicate (d.scale.val - ds.length + 1) '0' ++ ds := rfl
      rw [Option.getD_some, hzeros]
      refine ⟨List.forall_mem_append.mpr ⟨?_, hdigits⟩, List.append_ne_nil_of_right_ne_nil _ hne,
        (Digits.toNat_replicate_append _ _).trans hvalue, ?_⟩
      · intro c hc
        rw [List.eq_of_mem_replicate hc]
        decide
      · rw [List.length_append, List.length_replicate, Nat.sub_add_cancel hle]
    next hlt =>
      refine ⟨ds.take (ds.length - d.scale.val), some (ds.drop (ds.length - d.scale.val)), rfl, ?_⟩
      rw [Option.getD_some, List.take_append_drop, List.length_drop]
      exact ⟨hdigits, hne, hvalue, by omega⟩

lemma ofText?_text (d : Decimal) : ofText? d.text = some d := by
  obtain ⟨x, htext, hinteger, hplaces⟩ := d.exists_numeral_text
  rw [htext, x.ofText?_eq_some_iff x.trim_text]
  exact ⟨hinteger, hplaces⟩

/-- The text of a decimal is read as that decimal, with its mantissa and its places; so reading a
decimal as text and that text as a decimal changes nothing. -/
theorem reads_its_text (d : Decimal) : ofText? d.text = some d ∧
    ∃ t, (Cell.decimal d).coerce .text = .ok t ∧ t.coerce .decimal = .ok (.decimal d) := by
  refine ⟨ofText?_text d, .text (String.ofList d.text), rfl, ?_⟩
  simp only [Cell.coerce, Cell.convert?, Cell.readDecimal?, String.toList_ofList, ofText?_text]
  rfl

end Decimal

end Confluence
