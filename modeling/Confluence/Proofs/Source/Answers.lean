import Confluence.Source.Scripted
import Confluence.Source.Shard
import Mathlib.Tactic.Common

/-!
# Sources that answer alike

A map between sources keeps answers if what it makes of a source answers every call as that source
does, as long as that source does not fail. To take the script from a source that fails on purpose
is such a map: the script can turn an answer into a failure, but never into another answer.
-/

namespace Confluence

variable {σ τ : Type} [RowSource σ] [RowSource τ]

/-- Answers of a source are answers of its image. Nothing is said of calls that fail. -/
structure KeepsAnswers (f : σ → τ) : Prop where
  columnCount (s : σ) : RowSource.columnCount (f s) = RowSource.columnCount s
  columnLabel {s : σ} {i : Nat} {l : String} :
    RowSource.columnLabel s i = .ok l → RowSource.columnLabel (f s) i = .ok l
  advance {s s' : σ} {b : Bool} :
    RowSource.advance s = (.ok b, s') → RowSource.advance (f s) = (.ok b, f s')
  value {s s' : σ} {i : Nat} {t : SqlType} {c : Cell} :
    RowSource.value s i t = (.ok c, s') → RowSource.value (f s) i t = (.ok c, f s')

/-! ### Scripted sources -/

namespace ScriptedSource

/-- The source without its script: it fails only where rows in memory do. -/
def unscripted (s : ScriptedSource) : ScriptedSource := { s with script := {} }

variable {s s' : ScriptedSource}

lemma columnLabel_unscripted {i : Nat} {l : String} (h : s.columnLabel i = .ok l) :
    s.unscripted.columnLabel i = .ok l := by
  rw [columnLabel] at h
  split at h
  · cases h
  · exact h

lemma advance_unscripted {b : Bool} (h : s.advance = (.ok b, s')) :
    s.unscripted.advance = (.ok b, s'.unscripted) := by
  rw [advance] at h
  split at h
  · cases h
  · simp only [advance, advanceFailure?, unscripted]
    split at h
    next m hm =>
      cases h
      rfl
    next r m hr hm =>
      cases h
      cases b with
      | true => exact absurd rfl hr
      | false => rfl

lemma value_unscripted {i : Nat} {t : SqlType} {c : Cell} (h : s.value i t = (.ok c, s')) :
    s.unscripted.value i t = (.ok c, s'.unscripted) := by
  rw [value] at h
  split at h
  · cases h
  · simp only [value, valueFailure?, unscripted]
    rcases hv : s.memory.value i t with ⟨r, m⟩
    rw [hv] at h
    cases h
    rfl

/-- A script takes answers away, and leaves those that it does not take as they are. -/
theorem keepsAnswers_unscripted : KeepsAnswers unscripted where
  columnCount _ := rfl
  columnLabel := columnLabel_unscripted
  advance := advance_unscripted
  value := value_unscripted

end ScriptedSource

/-! ### Sources of either kind -/

section Sum

variable {α β α' β' : Type} [RowSource α] [RowSource β] [RowSource α'] [RowSource β']

lemma RowSource.advance_inl {s s' : α} {r : Except Failure Bool}
    (h : RowSource.advance s = (r, s')) :
    RowSource.advance (Sum.inl s : α ⊕ β) = (r, .inl s') := by
  obtain ⟨rfl, rfl⟩ := Prod.mk.inj h
  rfl

lemma RowSource.advance_inr {s s' : β} {r : Except Failure Bool}
    (h : RowSource.advance s = (r, s')) :
    RowSource.advance (Sum.inr s : α ⊕ β) = (r, .inr s') := by
  obtain ⟨rfl, rfl⟩ := Prod.mk.inj h
  rfl

lemma RowSource.value_inl {s s' : α} {i : Nat} {t : SqlType} {r : Except Failure Cell}
    (h : RowSource.value s i t = (r, s')) :
    RowSource.value (Sum.inl s : α ⊕ β) i t = (r, .inl s') := by
  obtain ⟨rfl, rfl⟩ := Prod.mk.inj h
  rfl

lemma RowSource.value_inr {s s' : β} {i : Nat} {t : SqlType} {r : Except Failure Cell}
    (h : RowSource.value s i t = (r, s')) :
    RowSource.value (Sum.inr s : α ⊕ β) i t = (r, .inr s') := by
  obtain ⟨rfl, rfl⟩ := Prod.mk.inj h
  rfl

/-- Maps that keep the answers of two kinds of sources keep those of sources of either kind. -/
lemma KeepsAnswers.sumMap {f : α → α'} {g : β → β'} (hf : KeepsAnswers f) (hg : KeepsAnswers g) :
    KeepsAnswers (Sum.map f g) where
  columnCount s := by
    cases s with
    | inl s => exact hf.columnCount s
    | inr s => exact hg.columnCount s
  columnLabel {s i l} h := by
    cases s with
    | inl s => exact hf.columnLabel h
    | inr s => exact hg.columnLabel h
  advance {s s' b} h := by
    cases s with
    | inl s =>
      obtain ⟨hr, rfl⟩ := Prod.mk.inj h
      exact RowSource.advance_inl (hf.advance (Prod.ext hr rfl))
    | inr s =>
      obtain ⟨hr, rfl⟩ := Prod.mk.inj h
      exact RowSource.advance_inr (hg.advance (Prod.ext hr rfl))
  value {s s' i t c} h := by
    cases s with
    | inl s =>
      obtain ⟨hr, rfl⟩ := Prod.mk.inj h
      exact RowSource.value_inl (hf.value (Prod.ext hr rfl))
    | inr s =>
      obtain ⟨hr, rfl⟩ := Prod.mk.inj h
      exact RowSource.value_inr (hg.value (Prod.ext hr rfl))

end Sum

/-! ### Shards -/

namespace Shard

/-- The same shard over the image of its source. -/
def map (f : σ → τ) (s : Shard σ) : Shard τ := ⟨s.number, f s.source, s.exhausted, s.closed⟩

variable {f : σ → τ} {s s' : Shard σ}

lemma advance_map (hf : KeepsAnswers f) {b : Bool} (h : s.advance = (.ok b, s')) :
    (s.map f).advance = (.ok b, s'.map f) := by
  have hend : ((s.map f).exhausted || (s.map f).closed) = (s.exhausted || s.closed) := rfl
  rw [advance] at h
  rw [advance, hend]
  split at h
  next hs =>
    cases h
    exact if_pos hs
  next hs =>
    rw [if_neg hs]
    split at h
    next source hadv =>
      cases h
      have hadv' : RowSource.advance (s.map f).source = (.ok true, f source) := hf.advance hadv
      rw [hadv']
      rfl
    next source hadv =>
      cases h
      have hadv' : RowSource.advance (s.map f).source = (.ok false, f source) := hf.advance hadv
      rw [hadv']
      rfl
    · cases h

lemma value_map (hf : KeepsAnswers f) {i : Nat} {t : SqlType} {c : Cell}
    (h : s.value i t = (.ok c, s')) : (s.map f).value i t = (.ok c, s'.map f) := by
  rw [value] at h
  split at h
  next c source hs =>
    cases h
    simp only [value, map, hf.value hs]
  · cases h

lemma readColumns_map (hf : KeepsAnswers f) {columns : List Nat} {r : Row}
    (h : s.readColumns columns = (.ok r, s')) :
    (s.map f).readColumns columns = (.ok r, s'.map f) := by
  induction columns generalizing s r with
  | nil =>
    cases h
    rfl
  | cons i columns ih =>
    rw [readColumns] at h
    split at h
    · cases h
    next c s₁ hv =>
      split at h
      · cases h
      next cs s₂ hread =>
        cases h
        simp only [readColumns, value_map hf hv, ih hread]

lemma readRow_map (hf : KeepsAnswers f) {n : Nat} {r : Row} (h : s.readRow n = (.ok r, s')) :
    (s.map f).readRow n = (.ok r, s'.map f) :=
  readColumns_map hf h

end Shard

end Confluence
