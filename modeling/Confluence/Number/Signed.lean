import Confluence.Number.Power

/-!
# Signed integers of a fixed width

`Signed w` holds the integers of two's complement with `w` bits. A computation is carried out
on `Int` and comes back through `Signed.ofInt?`, which refuses a result that does not fit, or through
`Signed.wrap`, which wraps around. Few wrap around, and all of these only far from ordinary data: row
numbers, the midnights of dates, and the quotient of the least number of all.
-/

namespace Confluence

/-- The first power of two that `w` bits of two's complement cannot hold. -/
def Signed.bound (w : Nat) : Nat := twoTo (w - 1)

/-- Whether `n` fits in `w` bits of two's complement. -/
def Signed.Fits (w : Nat) (n : Int) : Prop :=
  -(Signed.bound w : Int) ≤ n ∧ n < (Signed.bound w : Int)

instance (w : Nat) (n : Int) : Decidable (Signed.Fits w n) :=
  inferInstanceAs (Decidable (_ ∧ _))

/-- An integer that fits in `w` bits of two's complement. -/
structure Signed (w : Nat) where
  val : Int
  fits : Signed.Fits w val
deriving DecidableEq

namespace Signed

variable {w : Nat}

/-- The integer `n`, if it fits. -/
def ofInt? (w : Nat) (n : Int) : Option (Signed w) :=
  if h : Fits w n then some ⟨n, h⟩ else none

@[ext] theorem ext {a b : Signed w} (h : a.val = b.val) : a = b := by
  cases a; cases b; simp_all

@[simp] theorem ofInt?_val (a : Signed w) : ofInt? w a.val = some a := by
  simp [ofInt?, a.fits]

theorem ofInt?_eq_some_iff {n : Int} {a : Signed w} : ofInt? w n = some a ↔ a.val = n := by
  constructor
  · intro h
    rw [ofInt?] at h
    split at h
    · cases h; rfl
    · cases h
  · rintro rfl
    simp

theorem ofInt?_eq_none_iff {n : Int} : ofInt? w n = none ↔ ¬ Fits w n := by
  simp [ofInt?]

theorem fits_bmod (w : Nat) (n : Int) : Fits w (n.bmod (twoTo w)) := by
  have hle := Int.le_bmod (x := n) (twoTo_pos w)
  have hlt := Int.bmod_lt (x := n) (twoTo_pos w)
  rw [Fits, bound]
  cases w with
  | zero =>
    have hmodulus : twoTo 0 = 1 := rfl
    have hbound : twoTo (0 - 1) = 1 := rfl
    constructor <;> omega
  | succ w =>
    have htwo : twoTo (w + 1) = 2 * twoTo w := Nat.pow_succ'
    rw [Nat.add_sub_cancel]
    constructor <;> omega

/-- The integer with the last `w` bits of `n`. -/
def wrap (w : Nat) (n : Int) : Signed w := ⟨n.bmod (twoTo w), fits_bmod w n⟩

/-- A number that fits is not wrapped around. -/
theorem wrap_val {n : Int} (hw : 0 < w) (h : Fits w n) : (wrap w n).val = n := by
  obtain ⟨v, rfl⟩ : ∃ v, w = v + 1 := ⟨w - 1, by omega⟩
  have htwo : twoTo (v + 1) = 2 * twoTo v := Nat.pow_succ'
  obtain ⟨hle, hlt⟩ := h
  rw [bound, Nat.add_sub_cancel] at hle hlt
  show n.bmod (twoTo (v + 1)) = n
  rw [htwo]
  exact Int.bmod_eq_of_le (by omega) (by omega)

theorem fits_zero (w : Nat) : Fits w 0 := by
  have : 0 < bound w := twoTo_pos _
  constructor <;> omega

/-- What is no farther from zero than a number that fits, fits too: the lower end is the one
exception, and it is excluded by asking for a magnitude below the bound. -/
theorem fits_of_natAbs_lt {n : Int} (h : n.natAbs < bound w) : Fits w n := by
  constructor <;> omega

theorem natAbs_le (a : Signed w) : a.val.natAbs ≤ bound w := by
  have := a.fits
  rw [Fits] at this
  omega

instance : Inhabited (Signed w) := ⟨⟨0, fits_zero w⟩⟩

/-- The same number in a type of at least as many bits. -/
def widen {v : Nat} (h : w ≤ v) (a : Signed w) : Signed v :=
  ⟨a.val, by
    have hle : bound w ≤ bound v := twoTo_le_twoTo (by omega)
    have := a.fits
    rw [Fits] at this ⊢
    omega⟩

@[simp] theorem widen_val {v : Nat} (h : w ≤ v) (a : Signed w) : (a.widen h).val = a.val := rfl

end Signed

end Confluence
