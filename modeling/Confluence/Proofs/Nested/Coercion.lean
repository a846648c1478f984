import Confluence.Proofs.Cell.Coerce
import Confluence.Proofs.Cursor.Alike

/-!
# A column is coerced once

The type that a client asks for goes down through nested cursors to the source that the current row
comes from, and only there the cell is coerced. Coercing is idempotent, so it would make no
difference if cursors in between did it again.
-/

namespace Confluence

/-- Sources that read a column as a type by coercing, once, the cell that is there. -/
def CoercesOnce (σ : Type) [RowSource σ] : Prop :=
  ∀ {s : σ} {i : Nat} {d : Cell} (t : SqlType), (RowSource.value s i .any).1 = .ok d →
    (RowSource.value s i t).1 = d.coerce t

/-- A note on a failed coercion changes nothing. -/
lemma Cell.within_of_coerce_eq_error {d : Cell} {t : SqlType} {e : Failure}
    (h : d.coerce t = .error e) (note : String) : e.within note = e := by
  rw [eq_typeMismatch_of_coerce h]
  rfl

/-! ### Leaves -/

namespace MemorySource

lemma fst_value (s : MemorySource) (i : Nat) (t : SqlType) : (s.value i t).1 = s.read i t := by
  rw [value]
  cases s.read i t <;> rfl

theorem coercesOnce : CoercesOnce MemorySource := by
  intro s i d t h
  show (s.value i t).1 = _
  replace h : (s.value i .any).1 = .ok d := h
  rw [fst_value] at h ⊢
  rw [read] at h ⊢
  cases hrow : s.current with
  | error e =>
    rw [hrow] at h
    cases h
  | ok r =>
    rw [hrow] at h
    cases i with
    | zero => cases h
    | succ k =>
      cases hcell : r[k]? with
      | none => simp [hcell] at h
      | some v =>
        simp only [hcell, Cell.coerce_any, Except.ok.injEq] at h ⊢
        rw [h]

end MemorySource

/-- A script fails whatever type is asked for. -/
theorem ScriptedSource.coercesOnce : CoercesOnce ScriptedSource := by
  intro s i d t h
  show (s.value i t).1 = _
  replace h : (s.value i .any).1 = .ok d := h
  rw [value] at h ⊢
  cases hfail : s.valueFailure? i with
  | some e =>
    rw [hfail] at h
    cases h
  | none =>
    rw [hfail] at h
    exact MemorySource.coercesOnce t h

theorem CoercesOnce.sum {α β : Type} [RowSource α] [RowSource β] (hα : CoercesOnce α)
    (hβ : CoercesOnce β) : CoercesOnce (α ⊕ β) := by
  intro s i d t h
  cases s with
  | inl s => exact hα t h
  | inr s => exact hβ t h

/-! ### Cursors -/

section Cursors

variable {σ : Type} [RowSource σ] {i : Nat} {t : SqlType} {d : Cell}

namespace Shard

variable {s : Shard σ}

/-- What a source makes of a cell by coercing it, its shard hands on. -/
lemma fst_value_eq_coerce (h : (RowSource.value s.source i t).1 = d.coerce t) :
    (s.value i t).1 = d.coerce t := by
  rw [value]
  rcases hv : RowSource.value s.source i t with ⟨e | v, source⟩ <;> rw [hv] at h
  · simp only
    rw [Cell.within_of_coerce_eq_error h.symm]
    exact h
  · exact h

lemma of_value_eq_ok (h : (s.value i t).1 = .ok d) :
    (RowSource.value s.source i t).1 = .ok d := by
  rw [value] at h
  rcases hv : RowSource.value s.source i t with ⟨e | v, source⟩ <;> rw [hv] at h
  · cases h
  · exact h

end Shard

namespace Cursor

variable {c : Cursor σ}

/-- Only on a row there are values, and only in the columns of the cursor. -/
lemma onRow_of_value_eq_ok (h : (c.value i t).1 = .ok d) :
    c.phase = .onRow ∧ ¬ (i = 0 ∨ c.columnCount < i) := by
  rw [value] at h
  split at h
  · cases h
  · cases h
  · cases h
  next hphase =>
    split at h
    · cases h
    next hi => exact ⟨hphase, hi⟩

lemma fst_readCurrent_eq_coerce (hσ : CoercesOnce σ) (h : (c.readCurrent i .any).1 = .ok d) :
    (c.readCurrent i t).1 = d.coerce t := by
  rw [readCurrent] at h ⊢
  split at h
  next k hk =>
    split at h
    next s hs => exact Shard.fst_value_eq_coerce (hσ t (Shard.of_value_eq_ok h))
    · cases h
  next r hr =>
    simp only [readCopy] at h ⊢
    split at h
    next v hv =>
      rw [Cell.coerce_any, Except.ok.injEq] at h
      rw [h]
    · cases h
  · cases h

/-- A cursor hands the type on to its sources, or coerces the copy that it holds. -/
theorem coercesOnce (hσ : CoercesOnce σ) : CoercesOnce (Cursor σ) := by
  intro c i d t h
  show (c.value i t).1 = _
  replace h : (c.value i .any).1 = .ok d := h
  obtain ⟨hphase, hi⟩ := onRow_of_value_eq_ok h
  rw [fst_value_of_onRow hphase hi] at h ⊢
  rw [readColumn] at h ⊢
  split at h
  next k p hk hp =>
    split at h
    next hnumber =>
      rw [Cell.coerce_any, Except.ok.injEq] at h
      rw [if_pos hnumber, h]
    next hnumber =>
      rw [if_neg hnumber]
      exact fst_readCurrent_eq_coerce hσ h
  · exact fst_readCurrent_eq_coerce hσ h

end Cursor

end Cursors

/-! ### Nested cursors -/

namespace Nested

theorem coercesOnce : (n : Nat) → CoercesOnce (Nested ScriptedSource n)
  | 0 => ScriptedSource.coercesOnce
  | n + 1 => ScriptedSource.coercesOnce.sum (Cursor.coercesOnce (coercesOnce n))

variable {ℓ : Type} {n : Nat} {s : Nested ℓ n} {i : Nat}

/-- A source `s` has the current row of a nested source, and shows it in a column: each cursor in
between is on a row that its merge leaves where it is, and the column is none for row numbers. -/
inductive HasRowOf (s : Nested ℓ n) (i : Nat) : (m : Nat) → Nested ℓ m → Prop
  | itself : HasRowOf s i n s
  | shard {m : Nat} {c : Cursor (Nested ℓ m)} {k : Nat} {t : Shard (Nested ℓ m)} :
      c.phase = .onRow → 1 ≤ i → i ≤ c.columnCount → c.rowNumberColumn ≠ some i →
      c.merger.current = some (.shard k) → c.shards[k]? = some t → HasRowOf s i m t.source →
      HasRowOf s i (m + 1) (.inr c)

/-- What the source of a row makes of a cell by coercing it, all cursors above it hand on. -/
lemma HasRowOf.value_eq_coerce [RowSource ℓ] {m : Nat} {s' : Nested ℓ m} (h : HasRowOf s i m s')
    {t : SqlType} {d : Cell} (hs : (RowSource.value s i t).1 = d.coerce t) :
    (RowSource.value s' i t).1 = d.coerce t := by
  induction h with
  | itself => exact hs
  | @shard m c k sh hphase hpos hle hnumber hcurrent hsh _ ih =>
    show (c.value i t).1 = _
    have hi : ¬ (i = 0 ∨ c.columnCount < i) := by omega
    rw [Cursor.fst_value_of_onRow hphase hi, Cursor.readColumn_eq_readCurrent (.inl hnumber),
      Cursor.readCurrent, hcurrent]
    simp only [hsh]
    exact Shard.fst_value_eq_coerce ih

end Nested

/-- Coercing has the right type and is idempotent. What a cell is read as is NULL exactly if the
cell is, otherwise it has the type that was asked for, and read as that type again it stays what it
is. So a column is read through any number of nested cursors as it is read once from the source of
its row, be that a leaf or a cursor that holds a copy of the row. -/
theorem coercion_typed_and_idempotent {d r : Cell} {t : SqlType} (h : d.coerce t = .ok r) :
    (r = .null ↔ d = .null) ∧ (d ≠ .null → t ≠ .any → r.type? = some t) ∧ r.coerce t = .ok r ∧
      ∀ {m n : Nat} {s : Nested ScriptedSource m} {s' : Nested ScriptedSource n} {i : Nat},
        (RowSource.value s i .any).1 = .ok d → s.HasRowOf i n s' →
        (RowSource.value s i t).1 = .ok r ∧ (RowSource.value s' i t).1 = .ok r := by
  refine ⟨Cell.eq_null_iff_of_coerce h, fun hd ht => Cell.type?_of_coerce hd ht h,
    Cell.coerce_eq_self_of_coerce h, ?_⟩
  intro m n s s' i hs hrow
  have hvalue := Nested.coercesOnce m t hs
  rw [← h]
  exact ⟨hvalue, hrow.value_eq_coerce hvalue⟩

/-- A leaf with a text that is a number between blanks. -/
def blankLeaf : ScriptedSource where
  memory := { labels := ["k"], rows := [[.text " 1.50 "]] }

/-- The text of a leaf below two cursors, read as a decimal. -/
theorem coercion_of_text_below_cursors :
    let d : Cell := .text " 1.50 "
    let r : Cell := .decimal ⟨⟨150, by decide⟩, 2⟩
    d.coerce .decimal = .ok r ∧ (r = .null ↔ d = .null) ∧ r.type? = some .decimal ∧
      r.coerce .decimal = .ok r ∧
      ∃ (inner : Cursor (Nested ScriptedSource 0)) (c : Cursor (Nested ScriptedSource 1)),
        Cursor.merge {} {} [blankLeaf] = .ok inner ∧ Cursor.merge {} {} [.inr inner] = .ok c ∧
          (c.advance.2.value 1 .decimal).1 = .ok r := by
  intro d r
  have h : d.coerce .decimal = .ok r := rfl
  obtain ⟨hnull, htype, hself, hread⟩ := coercion_typed_and_idempotent h
  obtain ⟨inner, hinner⟩ : ∃ c : Cursor (Nested ScriptedSource 0),
      Cursor.merge {} {} [blankLeaf] = .ok c := ⟨_, rfl⟩
  obtain ⟨c, hc⟩ : ∃ c : Cursor (Nested ScriptedSource 1),
      Cursor.merge {} {} [.inr inner] = .ok c := by
    cases hinner
    exact ⟨_, rfl⟩
  refine ⟨h, hnull, htype (by decide) (by decide), hself, inner, c, hinner, hc, ?_⟩
  have hleaf : (RowSource.value (σ := Nested ScriptedSource 0) blankLeaf.advance.2 1 .any).1 =
      .ok d := rfl
  have hrow : Nested.HasRowOf (ℓ := ScriptedSource) (n := 0) blankLeaf.advance.2 1 2
      (.inr c.advance.2) := by
    cases hinner
    cases hc
    refine .shard rfl (by decide) (by decide) (by decide) rfl rfl ?_
    refine .shard rfl (by decide) (by decide) (by decide) rfl rfl ?_
    exact .itself
  exact (hread hleaf hrow).2

end Confluence
