import Confluence.Cell.Basic
import Confluence.Window
import Mathlib.Tactic.Common

/-!
# What a limit admits

A limit admits row numbers as a statement in its dialect reads. Its window admits the same ones
among the numbers that 64 bits can hold, and drawing through the window comes to just these rows.
-/

namespace Confluence

namespace Limit

/-- Whether the offset of a limit is a lower bound that admits a row number. -/
def AdmitsFrom (l : Limit) (n : Nat) : Prop :=
  ∀ b ∈ l.offset, if b.inclusive then b.value.toNat ≤ n else b.value.toNat < n

/-- Whether a limit admits a row number under a dialect. A bound that is not given does not
restrict. The native dialect counts rows, whether or not its bounds are inclusive, and the upper
bound of `top` always is. -/
def Admits (l : Limit) : Dialect → Nat → Prop
  | .native, n => (∀ a ∈ l.offset, a.value.toNat < n) ∧
    ∀ b ∈ l.rowCount, n ≤ (l.offset.map (·.value.toNat)).getD 0 + b.value.toNat
  | .rownum, n => l.AdmitsFrom n ∧
    ∀ b ∈ l.rowCount, if b.inclusive then n ≤ b.value.toNat else n < b.value.toNat
  | .top, n => l.AdmitsFrom n ∧ ∀ b ∈ l.rowCount, n ≤ b.value.toNat
  | .unknown, _ => True

instance (l : Limit) (n : Nat) : Decidable (l.AdmitsFrom n) :=
  inferInstanceAs (Decidable (∀ b ∈ l.offset, if b.inclusive then b.value.toNat ≤ n
    else b.value.toNat < n))

instance (l : Limit) (d : Dialect) (n : Nat) : Decidable (l.Admits d n) :=
  match d with
  | .native => inferInstanceAs (Decidable ((∀ a ∈ l.offset, a.value.toNat < n) ∧
      ∀ b ∈ l.rowCount, n ≤ (l.offset.map (·.value.toNat)).getD 0 + b.value.toNat))
  | .rownum => inferInstanceAs (Decidable (l.AdmitsFrom n ∧
      ∀ b ∈ l.rowCount, if b.inclusive then n ≤ b.value.toNat else n < b.value.toNat))
  | .top => inferInstanceAs (Decidable (l.AdmitsFrom n ∧ ∀ b ∈ l.rowCount, n ≤ b.value.toNat))
  | .unknown => inferInstanceAs (Decidable True)

/-- The last row number that the upper bound of a limit admits, as far as 64 bits can hold it. -/
def last? (l : Limit) : Dialect → Option Nat
  | .native => l.rowCount.map fun b =>
    min ((l.offset.map (·.value.toNat)).getD 0 + b.value.toNat) maxRowNumber
  | .rownum => l.rowCount.map fun b => if b.inclusive then b.value.toNat else b.value.toNat - 1
  | .top => l.rowCount.map (·.value.toNat)
  | .unknown => none

end Limit

namespace Window

/-- Whether a window admits a row number. -/
def Admits (w : Window) (n : Nat) : Prop := w.skip < n ∧ ∀ c ∈ w.ceiling, n ≤ c

instance (w : Window) (n : Nat) : Decidable (w.Admits n) :=
  inferInstanceAs (Decidable (w.skip < n ∧ ∀ c ∈ w.ceiling, n ≤ c))

end Window

variable {l : Limit} {d : Dialect} {w : Window} {n : Nat}

lemma exists_window? (l : Limit) (hd : d ≠ .unknown) :
    ∃ w, l.window? d = some w ∧ w.ceiling = l.last? d ∧ w.position = 0 := by
  cases d with
  | native => exact ⟨_, rfl, rfl, rfl⟩
  | rownum => exact ⟨_, rfl, rfl, rfl⟩
  | top => exact ⟨_, rfl, rfl, rfl⟩
  | unknown => exact absurd rfl hd

lemma floor_lt_iff {o : Option RowBound} (hn : 1 ≤ n) : RowBound.floor o < n ↔
    ∀ b ∈ o, if b.inclusive then b.value.toNat ≤ n else b.value.toNat < n := by
  cases o with
  | none =>
    simp only [RowBound.floor, Option.mem_def]
    refine ⟨?_, fun _ => hn⟩
    rintro _ _ ⟨⟩
  | some b =>
    simp only [RowBound.floor, Option.mem_def, Option.some.injEq, forall_eq']
    split
    · omega
    · rfl

lemma le_ceiling_iff {b : RowBound} (hn : 1 ≤ n) : n ≤ b.ceiling ↔
    if b.inclusive then n ≤ b.value.toNat else n < b.value.toNat := by
  rw [RowBound.ceiling]
  split
  · rfl
  · omega

/-- Among the numbers that 64 bits can hold, a window admits what its limit admits. -/
theorem admits_iff (hw : l.window? d = some w) (h₁ : 1 ≤ n) (h₂ : n ≤ maxRowNumber) :
    l.Admits d n ↔ w.Admits n := by
  have hmap {α : Type} {o : Option α} {f : α → Nat} :
      (∀ c ∈ o.map f, n ≤ c) ↔ ∀ b ∈ o, n ≤ f b := by
    cases o <;> simp
  cases d with
  | native =>
    cases hw
    have hoffset : (∀ a ∈ l.offset, a.value.toNat < n) ↔
        (l.offset.map (·.value.toNat)).getD 0 < n := by
      cases l.offset with
      | none => simpa using Nat.lt_of_lt_of_le Nat.zero_lt_one h₁
      | some a => simp
    simp only [Limit.Admits, Window.Admits, hoffset, hmap, Nat.le_min, h₂, and_true]
  | rownum =>
    cases hw
    simp only [Limit.Admits, Window.Admits, Limit.AdmitsFrom, floor_lt_iff h₁, hmap,
      le_ceiling_iff h₁]
  | top =>
    cases hw
    simp only [Limit.Admits, Window.Admits, Limit.AdmitsFrom, floor_lt_iff h₁, hmap]
  | unknown => cases hw

/-! ### Rows in a window -/

namespace Window

/-- The rows to come that a window admits, with their numbers. -/
def admitted (w : Window) (rows : List Row) : List (Row × Nat) :=
  (rows.zipIdx (w.position + 1)).filter fun x => w.Admits x.2

variable {rows : List Row}

lemma admitted_eq_nil (h : ∀ n, w.position < n → n ≤ w.position + rows.length → ¬ w.Admits n) :
    w.admitted rows = [] := by
  rw [admitted, List.filter_eq_nil_iff]
  rintro ⟨r, n⟩ hmem
  obtain ⟨hn, hn', -⟩ := List.mem_zipIdx hmem
  rw [decide_eq_true_eq]
  apply h
  · omega
  · omega

lemma admitted_eq_nil_of_le (h : rows.length ≤ w.skip - w.position) : w.admitted rows = [] := by
  apply admitted_eq_nil
  rintro n hn hn' ⟨hskip, -⟩
  omega

lemma isPast_eq_false_iff :
    w.isPast = false ↔ ∀ c ∈ w.ceiling, w.position < c ∧ w.skip < c := by
  rw [isPast]
  cases w.ceiling with
  | none => simp
  | some c => simp

lemma admitted_eq_nil_of_isPast (h : w.isPast = true) : w.admitted rows = [] := by
  apply admitted_eq_nil
  rintro n hn - ⟨hskip, hceiling⟩
  have hnot : w.isPast = false := by
    rw [isPast_eq_false_iff]
    intro c hc
    have := hceiling c hc
    omega
  rw [h] at hnot
  cases hnot

/-- The first row that is not dropped is admitted, and after it those that come later. -/
lemma admitted_eq_cons (h : w.isPast = false) (hlen : w.skip - w.position < rows.length) :
    w.admitted rows = (rows[w.skip - w.position], w.position + (w.skip - w.position) + 1) ::
      ({ w with position := w.position + (w.skip - w.position) + 1 } : Window).admitted
        (rows.drop (w.skip - w.position + 1)) := by
  have hsplit : rows = rows.take (w.skip - w.position) ++
      rows[w.skip - w.position] :: rows.drop (w.skip - w.position + 1) := by
    rw [List.getElem_cons_drop, List.take_append_drop]
  have hdropped : ((rows.take (w.skip - w.position)).zipIdx (w.position + 1)).filter
      (fun x => decide (w.Admits x.2)) = [] :=
    admitted_eq_nil_of_le (List.length_take_le _ _)
  have hfirst : w.Admits (w.position + (w.skip - w.position) + 1) := by
    rw [isPast_eq_false_iff] at h
    refine ⟨by omega, fun c hc => ?_⟩
    have := h c hc
    omega
  have hnumber : w.position + 1 + (w.skip - w.position) = w.position + (w.skip - w.position) + 1 :=
    Nat.add_right_comm _ _ _
  conv_lhs => rw [admitted, hsplit]
  rw [List.zipIdx_append, List.filter_append, hdropped, List.nil_append, List.zipIdx_cons,
    List.length_take_of_le (Nat.le_of_lt hlen), hnumber, List.filter_cons_of_pos]
  · rfl
  · simpa using hfirst

/-- The answers of a merge of `total` more rows that is asked for the rows up to the end of a
window: the last of them is that there is no row left, unless the window ends before. -/
def asks (w : Window) (total : Nat) : List (Except Failure Bool) :=
  match w.ceiling with
  | none => List.replicate total (.ok true) ++ [.ok false]
  | some c =>
    if c ≤ w.skip then []
    else List.replicate (min total (c - w.position)) (.ok true) ++
      if total < c - w.position then [.ok false] else []

variable {total : Nat}

lemma asks_of_isPast (h : w.isPast = true) : w.asks total = [] := by
  rw [isPast] at h
  rw [asks]
  split at h
  next c hc =>
    simp only [Bool.or_eq_true, decide_eq_true_eq] at h
    rw [hc]
    simp only
    split
    · rfl
    · have hzero : c - w.position = 0 := by omega
      simp [hzero]
  · cases h

lemma asks_of_le (h : w.isPast = false) (hlen : total ≤ w.skip - w.position) :
    w.asks total = List.replicate total (.ok true) ++ [.ok false] := by
  rw [isPast_eq_false_iff] at h
  rw [asks]
  split
  · rfl
  next c hc =>
    have hlt := h c hc
    rw [if_neg (by omega), if_pos (by omega), Nat.min_eq_left (by omega)]

lemma asks_of_lt (h : w.isPast = false) (hlen : w.skip - w.position < total) :
    w.asks total = List.replicate (w.skip - w.position + 1) (.ok true) ++
      ({ w with position := w.position + (w.skip - w.position) + 1 } : Window).asks
        (total - (w.skip - w.position + 1)) := by
  rw [isPast_eq_false_iff] at h
  simp only [asks]
  split
  · rw [← List.append_assoc, List.replicate_append_replicate, Nat.add_sub_cancel' hlen]
  next c hc =>
    have hlt := h c hc
    have hmin : w.skip - w.position + 1 + min (total - (w.skip - w.position + 1))
        (c - (w.position + (w.skip - w.position) + 1)) = min total (c - w.position) := by
      omega
    have hend : total - (w.skip - w.position + 1) < c - (w.position + (w.skip - w.position) + 1) ↔
        total < c - w.position := by
      omega
    have hskip : ¬ c ≤ w.skip := Nat.not_le.mpr hlt.2
    simp only [if_neg hskip, hend]
    rw [← List.append_assoc, List.replicate_append_replicate, hmin]

end Window

/-- The answers of a merge of `total` rows that is asked for the rows that a limit admits. It is
asked up to the last row number that is admitted, and not at all if none is up to there. -/
def Limit.asks (l : Limit) (d : Dialect) (total : Nat) : List (Except Failure Bool) :=
  match l.last? d with
  | none => List.replicate total (.ok true) ++ [.ok false]
  | some c =>
    if ∃ n ≤ c, 1 ≤ n ∧ l.Admits d n then
      List.replicate (min total c) (.ok true) ++ if total < c then [.ok false] else []
    else []

lemma last?_le {c : Nat} (hc : l.last? d = some c) : c ≤ maxRowNumber := by
  have hbound (v : UInt64) : v.toNat ≤ maxRowNumber := Nat.le_sub_one_of_lt v.toNat_lt
  cases d with
  | native =>
    obtain ⟨b, -, rfl⟩ := Option.map_eq_some_iff.mp hc
    exact Nat.min_le_right _ _
  | rownum =>
    obtain ⟨b, -, rfl⟩ := Option.map_eq_some_iff.mp hc
    split
    · exact hbound b.value
    · exact Nat.le_trans (Nat.sub_le _ 1) (hbound b.value)
  | top =>
    obtain ⟨b, -, rfl⟩ := Option.map_eq_some_iff.mp hc
    exact hbound b.value
  | unknown => cases hc

/-- A window is empty if and only if its limit admits no row number up to the last one. -/
lemma exists_admits_iff {c : Nat} (hw : l.window? d = some w) (hc : l.last? d = some c)
    (hceiling : w.ceiling = l.last? d) : (∃ n ≤ c, 1 ≤ n ∧ l.Admits d n) ↔ w.skip < c := by
  have hle := last?_le hc
  have hadmits {n : Nat} (h₁ : 1 ≤ n) (h₂ : n ≤ c) : l.Admits d n ↔ w.skip < n := by
    rw [admits_iff hw h₁ (Nat.le_trans h₂ hle), Window.Admits, hceiling, hc]
    simp [h₂]
  constructor
  · rintro ⟨n, h₂, h₁, hn⟩
    rw [hadmits h₁ h₂] at hn
    exact Nat.lt_of_lt_of_le hn h₂
  · intro hlt
    refine ⟨w.skip + 1, hlt, Nat.le_add_left 1 w.skip, ?_⟩
    rw [hadmits (Nat.le_add_left 1 w.skip) hlt]
    exact Nat.lt_succ_self w.skip

lemma asks_of_window? (hw : l.window? d = some w) (hceiling : w.ceiling = l.last? d)
    (hposition : w.position = 0) (total : Nat) : w.asks total = l.asks d total := by
  rw [Window.asks, Limit.asks, hceiling]
  cases hc : l.last? d with
  | none => rfl
  | some c =>
    simp only [hposition, Nat.sub_zero, exists_admits_iff hw hc hceiling]
    by_cases hlt : w.skip < c
    · rw [if_neg (Nat.not_le.mpr hlt), if_pos hlt]
    · rw [if_pos (Nat.not_lt.mp hlt), if_neg hlt]

/-- The rows that a window admits are those whose numbers its limit admits. -/
lemma admitted_of_window? {rows : List Row} (hw : l.window? d = some w)
    (hposition : w.position = 0) (hlen : rows.length < twoTo 64) :
    w.admitted rows = (rows.zipIdx 1).filter fun x => l.Admits d x.2 := by
  rw [Window.admitted, hposition]
  apply List.filter_congr
  rintro ⟨r, n⟩ hmem
  obtain ⟨h₁, h₂, -⟩ := List.mem_zipIdx hmem
  have hle : n ≤ maxRowNumber := Nat.le_sub_one_of_lt (by omega)
  simp only [admits_iff hw h₁ hle]

end Confluence
