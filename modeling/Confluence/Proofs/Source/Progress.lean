import Confluence.Proofs.Source.Alike
import Confluence.Proofs.Source.Lifecycle

/-!
# How far a leaf was moved

A leaf that no advance failed on is as far as it was advanced, up to one step behind its last row,
and a shard does not advance it any more from there. Reading it, whether or not that fails, leaves
it where it is, and what is read comes from the row that it sits on. A leaf without a failure to
read in its script is not lost by reading.
-/

namespace Confluence

namespace ScriptedSource

/-- Leaves that differ at most in the value read last and in the calls to read them. -/
structure Rests (s t : ScriptedSource) : Prop extends s.Like t where
  advances_eq : t.advances = s.advances

lemma Rests.refl (s : ScriptedSource) : s.Rests s := ⟨.refl s, rfl⟩

lemma advances_advance (s : ScriptedSource) : s.advance.2.advances = s.advances + 1 := by
  obtain ⟨b, hcalls, -⟩ := s.exists_calls_advance
  rw [advances, hcalls, List.countP_cons_of_pos rfl]
  rfl

lemma Rests.value {s t : ScriptedSource} (h : s.Rests t) (i : Nat) (ty : SqlType) :
    s.Rests (t.value i ty).2 where
  toLike := h.toLike.value i ty
  advances_eq := by
    rw [advances, t.calls_value, List.countP_cons_of_neg Bool.false_ne_true]
    exact h.advances_eq

theorem still_rests : Still Rests where
  value h _ := h.value _ _

/-- An advance that does not fail moves a leaf by one step, as long as it was not moved behind its
last row. -/
lemma advance_cases (s : ScriptedSource) (hopen : s.memory.closed = false)
    (hle : s.memory.position ≤ s.memory.rows.length) :
    (∃ e, s.advanceFailure? = some e ∧ s.advance.1 = .error e) ∨
      (s.advance.1 = .ok (decide (s.memory.position < s.memory.rows.length)) ∧
        s.advance.2.memory.position = s.memory.position + 1 ∧
        s.advance.2.memory.closed = false) := by
  rw [advance]
  split
  next e he => exact Or.inl ⟨e, he, rfl⟩
  next =>
    right
    rw [MemorySource.advance, if_neg (by simp [hopen])]
    by_cases hlt : s.memory.position < s.memory.rows.length
    · rw [if_pos hlt]
      exact ⟨congrArg Except.ok (decide_eq_true hlt).symm, rfl, hopen⟩
    · rw [if_neg hlt]
      refine ⟨congrArg Except.ok (decide_eq_false hlt).symm, ?_, hopen⟩
      exact congrArg (· + 1) (Nat.le_antisymm (Nat.not_lt.mp hlt) hle)

end ScriptedSource

/-! ### Reads that lose no source -/

/-- A script that lets every advance pass. -/
def FailureScript.LetsAdvance (f : FailureScript) : Prop := ∀ rows, f.advance rows = none

/-- A script that lets every value be read. -/
def FailureScript.LetsRead (f : FailureScript) : Prop := ∀ rows column, f.value rows column = none

lemma FailureScript.LetsAdvance.of_empty {f : FailureScript} (h : f = {}) : f.LetsAdvance := by
  intro rows
  rw [h]

lemma FailureScript.LetsRead.of_empty {f : FailureScript} (h : f = {}) : f.LetsRead := by
  intro rows column
  rw [h]

lemma Cell.isLost_coerce (c : Cell) (t : SqlType) : isLost (c.coerce t) = false := by
  rw [coerce]
  split
  · rfl
  · split <;> rfl

lemma MemorySource.isLost_current (s : MemorySource) : isLost s.current = false := by
  rw [current]
  split
  · rfl
  · split
    · rfl
    · split <;> rfl

lemma MemorySource.isLost_value (s : MemorySource) (i : Nat) (t : SqlType) :
    isLost (s.value i t).1 = false := by
  have hread : isLost (s.read i t) = false := by
    rw [read]
    split
    next e he => exact (congrArg isLost he).symm.trans s.isLost_current
    · split
      · rfl
      · split
        · exact Cell.isLost_coerce _ t
        · rfl
  rw [value]
  split
  · rfl
  next e he => exact (congrArg isLost he).symm.trans hread

lemma ScriptedSource.isLost_value {s : ScriptedSource} (h : s.script.LetsRead) (i : Nat)
    (t : SqlType) : isLost (s.value i t).1 = false := by
  have hnone : s.valueFailure? i = none := h _ i
  simp only [value, hnone]
  exact s.memory.isLost_value i t

/-- A shard over a leaf whose script has no failure to read is not lost by reading. -/
lemma Shard.isLost_value {s : Shard ScriptedSource} (h : s.source.script.LetsRead) (i : Nat)
    (t : SqlType) : isLost (s.value i t).1 = false := by
  have hsource := ScriptedSource.isLost_value h i t
  rw [value]
  split
  · rfl
  next e source he =>
    have he' : s.source.value i t = (.error e, source) := he
    rw [he'] at hsource
    exact (e.isTransient_within _).trans hsource

/-! ### Shards -/

/-- Shard number `k` over the leaf that was `a` before it was called, after `p` advances none of
which failed. -/
structure Stepped (a : ScriptedSource) (k p : Nat) (s : Shard ScriptedSource) : Prop where
  number_eq : s.number = k
  not_closed : s.closed = false
  exhausted_eq : s.exhausted = decide (a.memory.rows.length < p)
  origin_eq : s.source.origin = a.origin
  source_not_closed : s.source.memory.closed = false
  position_eq : s.source.memory.position = p
  advances_eq : s.source.advances = p

namespace Stepped

variable {a : ScriptedSource} {k p : Nat} {s s' : Shard ScriptedSource}

lemma rows_eq (h : Stepped a k p s) : s.source.memory.rows = a.memory.rows :=
  congrArg (·.memory.rows) h.origin_eq

lemma script_eq (h : Stepped a k p s) : s.source.script = a.script :=
  congrArg (·.script) h.origin_eq

/-- A leaf that was not called yet. -/
lemma of_origin (h : a.origin = a) : Stepped a k 0 { number := k, source := a } where
  number_eq := rfl
  not_closed := rfl
  exhausted_eq := rfl
  origin_eq := rfl
  source_not_closed := congrArg (·.memory.closed) h.symm
  position_eq := congrArg (·.memory.position) h.symm
  advances_eq := congrArg ScriptedSource.advances h.symm

/-- Reading does not move a shard. -/
lemma of_like (h : Stepped a k p s) (hlike : Shard.Like ScriptedSource.Rests s s') :
    Stepped a k p s' := by
  obtain ⟨hnumber, hexhausted, hclosed, ⟨hscript, b, hmemory⟩, hadvances⟩ := hlike
  refine ⟨hnumber ▸ h.number_eq, hclosed ▸ h.not_closed, hexhausted ▸ h.exhausted_eq, ?_, ?_, ?_,
    hadvances.trans h.advances_eq⟩
  · rw [← h.origin_eq, ScriptedSource.origin, ScriptedSource.origin, hscript, hmemory]
  · rw [hmemory]
    exact h.source_not_closed
  · rw [hmemory]
    exact h.position_eq

/-- An advance of a shard that is not behind its last row moves it by one step, unless its script
has a failure. -/
lemma advance (h : Stepped a k p s) (hle : p ≤ a.memory.rows.length) :
    Leaves (fun b s' => b = decide (p < a.memory.rows.length) ∧ Stepped a k (p + 1) s')
      (fun _ _ => ¬ a.script.LetsAdvance) s.advance := by
  have hlive : ¬ (s.exhausted || s.closed) = true := by
    rw [h.exhausted_eq, h.not_closed, decide_eq_false (Nat.not_lt.mpr hle)]
    exact Bool.false_ne_true
  have horigin := s.source.origin_advance.trans h.origin_eq
  have hadvances := s.source.advances_advance.trans (congrArg (· + 1) h.advances_eq)
  have hcases := s.source.advance_cases h.source_not_closed
    (by rw [h.position_eq, h.rows_eq]; exact hle)
  rw [h.position_eq, h.rows_eq] at hcases
  rw [Shard.advance, if_neg hlive]
  rcases hcases with ⟨e, hscript, herror⟩ | ⟨hok, hposition, hclosed⟩
  · rw [show RowSource.advance s.source = (.error e, s.source.advance.2) from Prod.ext herror rfl]
    intro hnone
    rw [ScriptedSource.advanceFailure?, h.script_eq, hnone] at hscript
    cases hscript
  · by_cases hlt : p < a.memory.rows.length
    · rw [decide_eq_true hlt] at hok ⊢
      rw [show RowSource.advance s.source = (.ok true, s.source.advance.2) from Prod.ext hok rfl]
      refine ⟨rfl, h.number_eq, h.not_closed, h.exhausted_eq.trans ?_, horigin, hclosed, hposition,
        hadvances⟩
      rw [decide_eq_false (Nat.not_lt.mpr hle), decide_eq_false (Nat.not_lt.mpr hlt)]
    · rw [decide_eq_false hlt] at hok ⊢
      rw [show RowSource.advance s.source = (.ok false, s.source.advance.2) from Prod.ext hok rfl]
      exact ⟨rfl, h.number_eq, h.not_closed,
        (decide_eq_true (Nat.lt_succ_of_le (Nat.not_lt.mp hlt))).symm, horigin, hclosed, hposition,
        hadvances⟩

/-- The row that a shard sits on. -/
lemma current_eq (h : Stepped a k (p + 1) s) {r : Row} (hr : a.memory.rows[p]? = some r) :
    s.source.memory.current = .ok r := by
  rw [MemorySource.current, h.source_not_closed, h.position_eq, h.rows_eq]
  simp only [hr]
  rfl

lemma value_self (h : Stepped a k p s) {i : Nat} {t : SqlType}
    (hlost : isLost (s.value i t).1 = false) : Stepped a k p (s.value i t).2 :=
  h.of_like (Shard.still_value ScriptedSource.still_rests ⟨rfl, rfl, rfl, .refl _⟩ hlost)

/-- Reading a column of the row that a shard sits on gives its cell, unless the row is too short for
it or the script has a failure. -/
lemma value (h : Stepped a k (p + 1) s) {r : Row} (hr : a.memory.rows[p]? = some r) (i : Nat) :
    Leaves (fun v s' => r[i]? = some v ∧ Stepped a k (p + 1) s')
      (fun _ _ => ¬ a.script.LetsRead ∨ r.length ≤ i) (s.value (i + 1) .any) := by
  have hsource : Leaves (fun v _ => r[i]? = some v)
      (fun _ _ => ¬ a.script.LetsRead ∨ r.length ≤ i) (s.source.value (i + 1) .any) := by
    rw [ScriptedSource.value]
    split
    next e he =>
      left
      intro hnone
      rw [ScriptedSource.valueFailure?, h.script_eq, hnone] at he
      cases he
    next =>
      simp only [MemorySource.value, MemorySource.read, h.current_eq hr]
      cases hcell : r[i]? with
      | none => exact Or.inr (List.getElem?_eq_none_iff.mp hcell)
      | some v =>
        simp only [Cell.coerce_any]
        rfl
  have hself := h.value_self (i := i + 1) (t := .any)
  rw [Shard.value] at hself ⊢
  rcases hv : RowSource.value s.source (i + 1) .any with ⟨e | v, source⟩ <;> rw [hv] at hself
  · exact hsource.of_eq_error hv
  · exact ⟨hsource.of_eq_ok hv, hself rfl⟩

/-- The cells of the row that a shard sits on. -/
lemma readColumns (h : Stepped a k (p + 1) s) {r : Row} (hr : a.memory.rows[p]? = some r)
    (columns : List Nat) :
    Leaves (fun cells s' => cells = columns.map r.cell ∧ Stepped a k (p + 1) s')
      (fun _ _ => ¬ a.script.LetsRead ∨ ∃ i ∈ columns, r.length ≤ i)
      (s.readColumns columns) := by
  induction columns generalizing s with
  | nil => exact ⟨rfl, h⟩
  | cons i columns ih =>
    have hvalue := h.value hr i
    rw [Shard.readColumns]
    split
    next e s₁ hs₁ =>
      exact (hvalue.of_eq_error hs₁).imp_right fun hlen => ⟨i, List.mem_cons_self, hlen⟩
    next v s₁ hs₁ =>
      obtain ⟨hv, h₁⟩ := hvalue.of_eq_ok hs₁
      have hrest := ih h₁
      split
      next e s₂ hs₂ =>
        refine (hrest.of_eq_error hs₂).imp_right ?_
        rintro ⟨j, hj, hlen⟩
        exact ⟨j, List.mem_cons_of_mem i hj, hlen⟩
      next cells s₂ hs₂ =>
        obtain ⟨rfl, h₂⟩ := hrest.of_eq_ok hs₂
        refine ⟨?_, h₂⟩
        rw [List.map_cons, Row.cell, List.getD_eq_getElem?_getD, hv, Option.getD_some]

lemma exhausted_of_behind (h : Stepped a k (a.memory.rows.length + 1) s) : s.exhausted = true :=
  h.exhausted_eq.trans (decide_eq_true (Nat.lt_succ_self _))

/-- A shard in front of one of its rows moves to it. -/
lemma advance_row (h : Stepped a k p s) (hscript : a.script.LetsAdvance)
    (hlt : p < a.memory.rows.length) :
    ∃ s', s.advance = (.ok true, s') ∧ Stepped a k (p + 1) s' := by
  have hadvance := h.advance (Nat.le_of_lt hlt)
  rcases hs' : s.advance with ⟨e | b, s'⟩
  · exact absurd hscript (hadvance.of_eq_error hs')
  · obtain ⟨rfl, h'⟩ := hadvance.of_eq_ok hs'
    rw [decide_eq_true hlt]
    exact ⟨s', rfl, h'⟩

/-- A shard without a row to come gets behind its last one, and stays there. -/
lemma advance_end {n : Nat} (h : Stepped a k (min n (a.memory.rows.length + 1)) s)
    (hscript : a.script.LetsAdvance) (hle : a.memory.rows.length ≤ n) :
    ∃ s', s.advance = (.ok false, s') ∧ Stepped a k (a.memory.rows.length + 1) s' := by
  rcases Nat.eq_or_lt_of_le hle with rfl | hlt
  · rw [Nat.min_eq_left (Nat.le_succ _)] at h
    have hadvance := h.advance (Nat.le_refl _)
    rcases hs' : s.advance with ⟨e | b, s'⟩
    · exact absurd hscript (hadvance.of_eq_error hs')
    · obtain ⟨rfl, h'⟩ := hadvance.of_eq_ok hs'
      rw [decide_eq_false (Nat.lt_irrefl _)]
      exact ⟨s', rfl, h'⟩
  · rw [Nat.min_eq_right hlt] at h
    refine ⟨s, ?_, h⟩
    rw [Shard.advance, h.exhausted_of_behind, Bool.true_or, if_pos rfl]

end Stepped

end Confluence
