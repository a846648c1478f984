import Confluence.Failure
import Confluence.Number.Power
import Confluence.Shape.Basic

/-!
# Windows on the rows of a result

A limit admits a window of consecutive row numbers. The rows in front of it are drawn and dropped;
once its last row is out, nothing is drawn any more.
-/

namespace Confluence

/-- The window that admits the rows numbered from `skip + 1` to `ceiling`. -/
structure Window where
  skip : Nat
  ceiling : Option Nat
  /-- The number of rows drawn so far, which is the number of the row drawn last. -/
  position : Nat := 0
deriving DecidableEq

namespace Window

variable {τ : Type}

/-- Draw rows and drop the first `drop` of them. -/
def seek (next : τ → Except Failure Bool × τ) : Nat → Window → τ → Except Failure Bool × Window × τ
  | drop, w, t =>
    match next t with
    | (.ok true, t) =>
      match drop with
      | 0 => (.ok true, { w with position := w.position + 1 }, t)
      | drop + 1 => seek next drop { w with position := w.position + 1 } t
    | (r, t) => (r, w, t)

/-- Whether no row that is still to come is admitted. -/
def isPast (w : Window) : Bool :=
  match w.ceiling with
  | some c => c ≤ w.position || c ≤ w.skip
  | none => false

/-- Move to the next row in the window, drawing rows by `next`. -/
def advance (next : τ → Except Failure Bool × τ) (w : Window) (t : τ) :
    Except Failure Bool × Window × τ :=
  if w.isPast then (.ok false, w, t) else seek next (w.skip - w.position) w t

/-- What drawing one row never increases, moving through the window never increases. -/
theorem measure_advance_le {next : τ → Except Failure Bool × τ} {μ : τ → Nat}
    (h : ∀ t, μ (next t).2 ≤ μ t) (w : Window) (t : τ) : μ (w.advance next t).2.2 ≤ μ t := by
  have hseek : ∀ drop w t, μ (seek next drop w t).2.2 ≤ μ t := by
    intro drop
    induction drop with
    | zero =>
      intro w t
      have := h t
      rw [seek]
      split <;> simp_all
    | succ drop ih =>
      intro w t
      have := h t
      rw [seek]
      split
      next t' ht =>
        simp only [ht] at this
        exact Nat.le_trans (ih _ t') this
      next r t' hr ht => simp only [ht] at this; exact this
  rw [advance]
  split
  · exact Nat.le_refl _
  · exact hseek _ w t

/-- What every drawn row decreases, every row in the window decreases. -/
theorem measure_advance_lt {next : τ → Except Failure Bool × τ} {μ : τ → Nat}
    (h : ∀ t, (next t).1 = .ok true → μ (next t).2 < μ t) (w : Window) (t : τ)
    (hw : (w.advance next t).1 = .ok true) : μ (w.advance next t).2.2 < μ t := by
  have hseek : ∀ drop w t, (seek next drop w t).1 = .ok true →
      μ (seek next drop w t).2.2 < μ t := by
    intro drop
    induction drop with
    | zero =>
      intro w t hs
      have := h t
      rw [seek] at hs ⊢
      split at hs <;> simp_all
    | succ drop ih =>
      intro w t hs
      have := h t
      rw [seek] at hs ⊢
      split at hs
      next t' ht =>
        simp only [ht, forall_const] at this
        exact Nat.lt_trans (ih _ t' hs) this
      next r t' hr ht => simp_all
  rw [advance] at hw ⊢
  split at hw
  · cases hw
  next hp =>
    rw [if_neg hp]
    exact hseek _ w t hw

end Window

/-- The largest number of 64 bits. -/
def maxRowNumber : Nat := twoTo 64 - 1

/-- The row numbers up to this one are excluded by an offset that is a lower bound on row
numbers. -/
def RowBound.floor : Option RowBound → Nat
  | none => 0
  | some b => if b.inclusive then b.value.toNat - 1 else b.value.toNat

/-- The last row number admitted by an upper bound on row numbers. -/
def RowBound.ceiling (b : RowBound) : Nat :=
  if b.inclusive then b.value.toNat else b.value.toNat - 1

/-- The window of a limit under a dialect. The native offset and count are numbers of rows. The
other dialects take them as bounds on the row number; the upper bound of `top` is always
admitted. -/
def Limit.window? (l : Limit) : Dialect → Option Window
  | .native =>
    let skip := (l.offset.map (·.value.toNat)).getD 0
    some ⟨skip, l.rowCount.map fun b => min (skip + b.value.toNat) maxRowNumber, 0⟩
  | .rownum => some ⟨RowBound.floor l.offset, l.rowCount.map RowBound.ceiling, 0⟩
  | .top => some ⟨RowBound.floor l.offset, l.rowCount.map (·.value.toNat), 0⟩
  | .unknown => none

/-- The window of a limit together with its dialect. -/
structure Pagination where
  dialect : Dialect
  window : Window
deriving DecidableEq

namespace Pagination

/-- The pagination of a limit; an unknown dialect has none. -/
def ofLimit? (l : Limit) (d : Dialect) : Option Pagination := (l.window? d).map fun w => ⟨d, w⟩

/-- The number of the current row in the whole result, counted from 1. -/
def rowNumber (p : Pagination) : Nat := p.window.position

/-- Whether a statement in this dialect selects the row number as a column. -/
def exposesRowNumber (p : Pagination) : Bool := p.dialect ≠ .native

end Pagination

end Confluence
