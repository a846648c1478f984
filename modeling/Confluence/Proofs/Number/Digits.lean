import Confluence.Number.Digits
import Confluence.Number.Power
import Mathlib.Data.List.Basic
import Mathlib.Tactic.Common

/-!
# Digits that are written and read

The digits that are written of a number read as that number, and zeros in front of digits make no
difference. Text of an integer is an optional sign and at least one digit.
-/

namespace Confluence

lemma lt_tenTo_log2_succ (n : Nat) : n < tenTo (n.log2 + 1) :=
  Nat.lt_of_lt_of_le Nat.lt_log2_self (Nat.pow_le_pow_left (by decide) _)

namespace Digits

/-- Whether all characters of a text are digits. -/
def AllDigits (ds : List Char) : Prop := ∀ c ∈ ds, isDigit c = true

instance (ds : List Char) : Decidable (AllDigits ds) :=
  List.decidableBAll (fun c => isDigit c = true) ds

/-! ### Single digits -/

lemma isDigit_iff {c : Char} : isDigit c = true ↔ 48 ≤ c.toNat ∧ c.toNat ≤ 57 := by
  rw [isDigit, Bool.and_eq_true, decide_eq_true_eq, decide_eq_true_eq]
  exact Iff.rfl

lemma isDigit_ofValue (n : Nat) : isDigit (ofValue n) = true := by
  have hlt : n % 10 < 10 := Nat.mod_lt n (by decide)
  rw [ofValue]
  generalize n % 10 = k at hlt
  revert k
  decide

lemma value_ofValue (n : Nat) : value (ofValue n) = n % 10 := by
  have hlt : n % 10 < 10 := Nat.mod_lt n (by decide)
  rw [ofValue]
  generalize n % 10 = k at hlt
  revert k
  decide

/-- A sign and a point are no digits. -/
lemma exists_cons_of_allDigits {ds : List Char} (hds : AllDigits ds) (hne : ds ≠ []) :
    ∃ c r, ds = c :: r ∧ isDigit c = true := by
  obtain ⟨c, r, rfl⟩ := List.exists_cons_of_ne_nil hne
  exact ⟨c, r, rfl, hds c List.mem_cons_self⟩

lemma ne_of_isDigit {c : Char} (h : isDigit c = true) : c ≠ '+' ∧ c ≠ '-' ∧ c ≠ '.' := by
  refine ⟨?_, ?_, ?_⟩ <;>
  · rintro rfl
    exact absurd h (by decide)

/-! ### Numbers -/

lemma toNat_singleton (c : Char) : toNat [c] = value c := by
  simp [toNat]

lemma toNat_append_singleton (ds : List Char) (c : Char) :
    toNat (ds ++ [c]) = 10 * toNat ds + value c := by
  rw [toNat, List.foldl_append]
  rfl

lemma toNat_replicate_append (k : Nat) (ds : List Char) :
    toNat (List.replicate k '0' ++ ds) = toNat ds := by
  induction k with
  | zero => rfl
  | succ k ih => exact ih

lemma write_append (fuel n : Nat) (acc : List Char) :
    write fuel n acc = write fuel n [] ++ acc := by
  induction fuel generalizing n acc with
  | zero => rfl
  | succ fuel ih =>
    rw [write, write]
    split
    · rfl
    · rw [ih, ih (n / 10) [ofValue n], List.append_assoc]
      rfl

/-- With enough room all digits of a number are written, and they are the digits of that number. -/
lemma write_spec {fuel n : Nat} (h : n < tenTo (fuel + 1)) :
    AllDigits (write (fuel + 1) n []) ∧ write (fuel + 1) n [] ≠ [] ∧
      toNat (write (fuel + 1) n []) = n := by
  induction fuel generalizing n with
  | zero =>
    have hn : n < 10 := h
    rw [write, if_pos hn]
    refine ⟨List.forall_mem_singleton.mpr (isDigit_ofValue n), List.cons_ne_nil _ _, ?_⟩
    rw [toNat_singleton, value_ofValue, Nat.mod_eq_of_lt hn]
  | succ fuel ih =>
    rw [write]
    split
    next hn =>
      refine ⟨List.forall_mem_singleton.mpr (isDigit_ofValue n), List.cons_ne_nil _ _, ?_⟩
      rw [toNat_singleton, value_ofValue, Nat.mod_eq_of_lt hn]
    next hn =>
      have hdiv : n / 10 < tenTo (fuel + 1) := by
        rw [tenTo_add] at h
        exact Nat.div_lt_of_lt_mul (Nat.mul_comm _ _ ▸ h)
      obtain ⟨hdigits, hne, hvalue⟩ := ih hdiv
      rw [write_append]
      refine ⟨List.forall_mem_append.mpr ⟨hdigits, ?_⟩, List.append_ne_nil_of_left_ne_nil hne _, ?_⟩
      · exact List.forall_mem_singleton.mpr (isDigit_ofValue n)
      · rw [toNat_append_singleton, hvalue, value_ofValue]
        exact Nat.div_add_mod n 10

lemma allDigits_ofNat (n : Nat) : AllDigits (ofNat n) := (write_spec (lt_tenTo_log2_succ n)).1

lemma ofNat_ne_nil (n : Nat) : ofNat n ≠ [] := (write_spec (lt_tenTo_log2_succ n)).2.1

@[simp] lemma toNat_ofNat (n : Nat) : toNat (ofNat n) = n := (write_spec (lt_tenTo_log2_succ n)).2.2

lemma ofValue_ne_zero {n : Nat} (hlt : n < 10) (hn : n ≠ 0) : ofValue n ≠ '0' := by
  intro h
  have hvalue := value_ofValue n
  rw [h, Nat.mod_eq_of_lt hlt] at hvalue
  exact hn hvalue.symm

lemma head?_write_ne_zero {fuel n : Nat} (h : n < tenTo (fuel + 1)) (hn : n ≠ 0) :
    (write (fuel + 1) n []).head? ≠ some '0' := by
  have hsingle {n : Nat} (hlt : n < 10) (hn : n ≠ 0) : some (ofValue n) ≠ some '0' := fun hzero =>
    ofValue_ne_zero hlt hn (Option.some.inj hzero)
  induction fuel generalizing n with
  | zero =>
    have hlt : n < 10 := h
    rw [write, if_pos hlt]
    exact hsingle hlt hn
  | succ fuel ih =>
    rw [write]
    split
    next hlt => exact hsingle hlt hn
    next hge =>
      have hdiv : n / 10 < tenTo (fuel + 1) := by
        rw [tenTo_add] at h
        exact Nat.div_lt_of_lt_mul (Nat.mul_comm _ _ ▸ h)
      rw [write_append, List.head?_append_of_ne_nil _ (write_spec hdiv).2.1]
      exact ih hdiv (by omega)

/-- Only zero is written with a zero in front. -/
lemma head?_ofNat_ne_zero {n : Nat} (hn : n ≠ 0) : (ofNat n).head? ≠ some '0' :=
  head?_write_ne_zero (lt_tenTo_log2_succ n) hn

lemma toNat?_eq_some_iff {ds : List Char} {n : Nat} :
    toNat? ds = some n ↔ ds ≠ [] ∧ AllDigits ds ∧ toNat ds = n := by
  rw [toNat?]
  split
  next h =>
    rw [List.all_eq_true] at h
    rw [Option.some.injEq]
    exact ⟨fun hn => ⟨h.1, h.2, hn⟩, fun hn => hn.2.2⟩
  next h =>
    rw [List.all_eq_true] at h
    refine ⟨nofun, fun hn => ?_⟩
    exact absurd ⟨hn.1, hn.2.1⟩ h

/-- A text that does not go on with a digit. -/
def EndsHere (rest : List Char) : Prop := ∀ c ∈ rest.head?, isDigit c = false

lemma endsHere_nil : EndsHere [] := nofun

lemma endsHere_cons {c : Char} (hc : isDigit c = false) (rest : List Char) :
    EndsHere (c :: rest) := by
  rintro d ⟨⟩
  exact hc

/-- The digits at the front of a text, where something else follows them. -/
lemma takeWhile_append {ds rest : List Char} (hds : AllDigits ds) (hrest : EndsHere rest) :
    (ds ++ rest).takeWhile isDigit = ds := by
  rw [List.takeWhile_append_of_pos hds]
  cases rest with
  | nil => exact List.append_nil ds
  | cons c rest => rw [List.takeWhile_cons_of_neg (by simp [hrest c rfl]), List.append_nil]

end Digits

/-! ### Signs -/

/-- The sign in front of digits, or none. -/
inductive DigitSign where
  | none
  | plus
  | minus
deriving DecidableEq

namespace DigitSign

def text : DigitSign → List Char
  | .none => []
  | .plus => ['+']
  | .minus => ['-']

/-- The integer of a magnitude behind a sign. -/
def apply : DigitSign → Nat → Int
  | .none, n => n
  | .plus, n => n
  | .minus, n => -(n : Int)

lemma mem_text {sign : DigitSign} {c : Char} (h : c ∈ sign.text) : c = '+' ∨ c = '-' := by
  cases sign with
  | none => cases h
  | plus => exact Or.inl (List.mem_singleton.mp h)
  | minus => exact Or.inr (List.mem_singleton.mp h)

/-- There is no room for characters in front of the last one of a sign. -/
lemma eq_nil_of_text_eq (sign : DigitSign) {front rest : List Char} {c : Char}
    (h : sign.text = front ++ c :: rest) : front = [] := by
  have hle : sign.text.length ≤ 1 := by cases sign <;> decide
  rw [h, List.length_append, List.length_cons] at hle
  exact List.eq_nil_of_length_eq_zero (by omega)

end DigitSign

namespace Digits

/-- An integer is read from digits behind a sign or none, and from nothing else. -/
lemma toInt?_eq_some_iff {s : List Char} {n : Int} :
    toInt? s = some n ↔ ∃ (sign : DigitSign) (ds : List Char), s = sign.text ++ ds ∧ ds ≠ [] ∧
      AllDigits ds ∧ sign.apply (toNat ds) = n := by
  constructor
  · intro h
    have hdigits {ds : List Char} {k : Nat} (hk : toNat? ds = some k) (sign : DigitSign)
        (hn : sign.apply k = n) : ∃ (sign' : DigitSign) (ds' : List Char),
          sign.text ++ ds = sign'.text ++ ds' ∧ ds' ≠ [] ∧ AllDigits ds' ∧
            sign'.apply (toNat ds') = n := by
      obtain ⟨hne, hds, rfl⟩ := toNat?_eq_some_iff.mp hk
      exact ⟨sign, ds, rfl, hne, hds, hn⟩
    rw [toInt?.eq_def] at h
    split at h
    next ds =>
      obtain ⟨k, hk, hn⟩ := Option.map_eq_some_iff.mp h
      exact hdigits hk .plus hn
    next ds =>
      cases hk : toNat? ds with
      | none =>
        rw [hk] at h
        cases h
      | some k =>
        rw [hk] at h
        exact hdigits hk .minus (Option.some.inj h)
    next ds hplus hminus =>
      obtain ⟨k, hk, hn⟩ := Option.map_eq_some_iff.mp h
      exact hdigits hk .none hn
  · rintro ⟨sign, ds, rfl, hne, hds, rfl⟩
    have hread : toNat? ds = some (toNat ds) := toNat?_eq_some_iff.mpr ⟨hne, hds, rfl⟩
    cases sign with
    | plus => simp only [DigitSign.text, List.singleton_append, toInt?, hread]; rfl
    | minus => simp only [DigitSign.text, List.singleton_append, toInt?, hread]; rfl
    | none =>
      obtain ⟨c, ds, rfl⟩ := List.exists_cons_of_ne_nil hne
      obtain ⟨hplus, hminus, -⟩ := ne_of_isDigit (hds c List.mem_cons_self)
      rw [DigitSign.text, List.nil_append, toInt?.eq_def]
      split
      next heq => exact absurd (List.cons.inj heq).1 hplus
      next heq => exact absurd (List.cons.inj heq).1 hminus
      · exact congrArg (Option.map Int.ofNat) hread

/-- The sign that is written in front of the digits of an integer. -/
lemma exists_sign (n : Int) : ∃ sign : DigitSign, sign.apply n.natAbs = n ∧
    ∀ ds : List Char, (if n < 0 then '-' :: ds else ds) = sign.text ++ ds := by
  by_cases h : n < 0
  · refine ⟨.minus, ?_, fun ds => if_pos h⟩
    rw [DigitSign.apply]
    omega
  · refine ⟨.none, ?_, fun ds => if_neg h⟩
    rw [DigitSign.apply]
    omega

end Digits

end Confluence
