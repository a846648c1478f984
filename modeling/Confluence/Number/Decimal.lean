import Confluence.Number.Binary64.Basic
import Confluence.Number.Digits
import Confluence.Number.Signed
import Confluence.Text.Blank

/-!
# Fixed-point decimals

A decimal is `mantissa * 10^(-scale)` with a mantissa of 128 bits and a scale up to 255. Two
representations of one number are different decimals: `7.00` keeps its two places. Comparison is
exact; sums and quotients give up where a mantissa would leave its range.
-/

namespace Confluence

/-- A number of decimal places. -/
abbrev Decimal.Scale := Fin 256

/-- The number `mantissa * 10^(-scale)`, together with its number of places. -/
structure Decimal where
  mantissa : Signed 128
  scale : Decimal.Scale
deriving DecidableEq

namespace Decimal

/-- An integer as a decimal without places. -/
def ofSigned {w : Nat} (n : Signed w) (h : w ≤ 128) : Decimal :=
  ⟨n.widen h, ⟨0, by decide⟩⟩

/-! ### Scaling and order -/

/-- The mantissa `n * 10^digits`, if it fits; the power has to fit too, unless `n` is zero. -/
def rescale? (n : Signed 128) (digits : Nat) : Option (Signed 128) :=
  if n.val = 0 then some n
  else if Signed.Fits 128 (tenTo digits : Nat) then
    Signed.ofInt? 128 (n.val * (tenTo digits : Nat))
  else none

/-- The order of the values. A side whose mantissa leaves its range at the larger scale outweighs
the other, so its sign decides. -/
def compare (a b : Decimal) : Ordering :=
  if a.scale = b.scale then Ord.compare a.mantissa.val b.mantissa.val
  else if b.scale < a.scale then
    match rescale? b.mantissa (a.scale.val - b.scale.val) with
    | some m => Ord.compare a.mantissa.val m.val
    | none => Ord.compare 0 b.mantissa.val
  else
    match rescale? a.mantissa (b.scale.val - a.scale.val) with
    | some m => Ord.compare m.val b.mantissa.val
    | none => Ord.compare a.mantissa.val 0

/-- The sum at the larger scale, if both mantissas and their sum fit there. -/
def add? (a b : Decimal) : Option Decimal :=
  let scale := if a.scale ≤ b.scale then b.scale else a.scale
  (rescale? a.mantissa (scale.val - a.scale.val)).bind fun x =>
    (rescale? b.mantissa (scale.val - b.scale.val)).bind fun y =>
      (Signed.ofInt? 128 (x.val + y.val)).map fun sum => ⟨sum, scale⟩

/-! ### Trailing zeros -/

/-- Take trailing zeros off a mantissa, one place at a time. -/
def stripZeros (mantissa : Int) : Nat → Int × Nat
  | 0 => (mantissa, 0)
  | scale + 1 =>
    if mantissa % 10 = 0 then stripZeros (mantissa / 10) scale else (mantissa, scale + 1)

theorem stripZeros_scale_le (m : Int) (s : Nat) : (stripZeros m s).2 ≤ s := by
  induction s generalizing m with
  | zero => simp [stripZeros]
  | succ s ih =>
    rw [stripZeros]
    split
    · exact Nat.le_succ_of_le (ih _)
    · simp

theorem fits_stripZeros {w : Nat} {m : Int} (h : Signed.Fits w m) (s : Nat) :
    Signed.Fits w (stripZeros m s).1 := by
  induction s generalizing m with
  | zero => simpa [stripZeros] using h
  | succ s ih =>
    rw [stripZeros]
    split
    · apply ih
      rw [Signed.Fits] at h ⊢
      omega
    · exact h

/-- The same number without trailing zeros after the point; zero has no places. -/
def trim (d : Decimal) : Decimal :=
  if d.mantissa.val = 0 then ⟨d.mantissa, ⟨0, by decide⟩⟩
  else
    ⟨⟨(stripZeros d.mantissa.val d.scale.val).1, fits_stripZeros d.mantissa.fits _⟩,
      ⟨(stripZeros d.mantissa.val d.scale.val).2,
        Nat.lt_of_le_of_lt (stripZeros_scale_le _ _) d.scale.isLt⟩⟩

/-- The integer that a decimal is, if it is one. -/
def integer? (d : Decimal) : Option (Signed 128) :=
  if d.trim.scale.val = 0 then some d.trim.mantissa else none

/-! ### Division -/

/-- Drop the last decimal digit, rounding half away from zero. The digit of a negative quotient is
read off the quotient with the other sign, which the least number of all does not have: that one
wraps around to itself and is rounded towards zero. -/
def roundLastDigit (q : Int) : Int :=
  if 0 ≤ q then (if 5 ≤ q % 10 then q / 10 + 1 else q / 10)
  else if 5 ≤ (Signed.wrap 128 (-q)).val.tmod 10 then -((-q) / 10) - 1
  else -((-q) / 10)

theorem fits_roundLastDigit {q : Int} (h : q.natAbs ≤ Signed.bound 128) :
    Signed.Fits 128 (roundLastDigit q) := by
  have hb : Signed.bound 128 = 170141183460469231731687303715884105728 := rfl
  rw [roundLastDigit, Signed.Fits]
  rw [hb] at h ⊢
  generalize (Signed.wrap 128 (-q)).val.tmod 10 = digit
  split <;> split <;> constructor <;> omega

theorem fits_tdiv {w : Nat} {n : Int} (h : Signed.Fits w n) (d : Nat) :
    Signed.Fits w (n.tdiv d) := by
  rw [Signed.Fits] at h ⊢
  cases n with
  | ofNat a =>
    have hq : a / d ≤ a := Nat.div_le_self a d
    have h' : (Int.ofNat a).tdiv d = ((a / d : Nat) : Int) := rfl
    rw [h']
    generalize a / d = q at hq ⊢
    simp only [Int.ofNat_eq_natCast] at h
    omega
  | negSucc a =>
    have hq : (a + 1) / d ≤ a + 1 := Nat.div_le_self (a + 1) d
    have h' : (Int.negSucc a).tdiv d = -(((a + 1) / d : Nat) : Int) := rfl
    rw [h']
    generalize (a + 1) / d = q at hq ⊢
    omega

/-- The dividend of a division to `places` digits, shifted so that one digit more than asked for
comes out. A shift to the left has to fit, as has its power of ten. A shift to the right drops
digits, and all of them if the power of ten is out of range. -/
def shifted? (d : Decimal) (places : Scale) : Option (Signed 128) :=
  if d.scale.val ≤ places.val + 1 then
    let power := tenTo (places.val + 1 - d.scale.val)
    if Signed.Fits 128 (power : Nat) then Signed.ofInt? 128 (d.mantissa.val * (power : Nat))
    else none
  else
    let power := tenTo (d.scale.val - (places.val + 1))
    if Signed.Fits 128 (power : Nat) then
      some ⟨d.mantissa.val.tdiv (power : Nat), fits_tdiv d.mantissa.fits _⟩
    else some default

/-- The quotient by an integer, rounded half away from zero on the digit after the last place.
There is none for a zero divisor, nor if the shifted dividend does not fit. One division of 128 bits
has no result either, that of the least number of all by `-1`, and a program stops there; here the
quotient wraps around. -/
def divRound? (d : Decimal) (divisor : Signed 128) (places : Scale) : Option Decimal :=
  if divisor.val = 0 then none
  else (shifted? d places).map fun s =>
    let q : Signed 128 := .wrap 128 (s.val.tdiv divisor.val)
    ⟨⟨roundLastDigit q.val, fits_roundLastDigit q.natAbs_le⟩, places⟩

/-! ### Floating point -/

/-- The quotient of the rounded mantissa and the power of ten formed by repeated squaring. -/
def toBinary64 (d : Decimal) : Binary64 :=
  Binary64.ofInt d.mantissa.val / Binary64.pow (Binary64.ofInt 10) d.scale.val

/-! ### Text -/

/-- The text of a decimal: all its places are written, and at least one digit before the point. -/
def text (d : Decimal) : List Char :=
  if d.scale.val = 0 then Digits.ofInt d.mantissa.val
  else
    let digits := Digits.ofNat d.mantissa.val.natAbs
    let unsigned :=
      if digits.length ≤ d.scale.val then
        '0' :: '.' :: (List.replicate (d.scale.val - digits.length) '0' ++ digits)
      else
        digits.take (digits.length - d.scale.val) ++
          '.' :: digits.drop (digits.length - d.scale.val)
    if d.mantissa.val < 0 then '-' :: unsigned else unsigned

/-- Read a decimal after taking blanks off its ends. The text is cut at its first point; what
stands after it gives the scale, and both sides joined are the mantissa, with an optional sign. -/
def ofText? (s : List Char) : Option Decimal :=
  let s := Text.trim s
  let whole := s.takeWhile (· ≠ '.')
  let fraction := (s.dropWhile (· ≠ '.')).drop 1
  if h : fraction.length < 256 then
    (Digits.toInt? (whole ++ fraction)).bind fun n =>
      (Signed.ofInt? 128 n).map fun m => ⟨m, ⟨_, h⟩⟩
  else none

end Decimal

end Confluence
