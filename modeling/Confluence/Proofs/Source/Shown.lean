import Confluence.Proofs.Source.Alike
import Confluence.Proofs.Source.Lifecycle

/-!
# What a source can show

The cells that can be read from a column of a source, after whatever calls. A call can only make
them fewer, so what is said of all of them is kept by every call.
-/

namespace Confluence

variable {σ τ : Type} [RowSource σ] [RowSource τ]

namespace RowSource

/-- The states that calls lead a source to. -/
inductive Reaches (s : σ) : σ → Prop
  | refl : Reaches s s
  | advance {t : σ} (h : Reaches s t) : Reaches s (RowSource.advance t).2
  | value {t : σ} (i : Nat) (ty : SqlType) (h : Reaches s t) : Reaches s (RowSource.value t i ty).2
  | close {t : σ} (h : Reaches s t) : Reaches s (RowSource.close t).2

lemma Reaches.trans {s t u : σ} (hst : Reaches s t) (htu : Reaches t u) : Reaches s u := by
  induction htu with
  | refl => exact hst
  | advance _ ih => exact ih.advance
  | value i ty _ ih => exact ih.value i ty
  | close _ ih => exact ih.close

/-- Whether a cell can be read from a column, counted from 0, after some calls. -/
def Shows (s : σ) (column : Nat) (v : Cell) : Prop :=
  ∃ t, Reaches s t ∧ (RowSource.value t (column + 1) .any).1 = .ok v

/-- Whether all cells that a column can show are of the kind that it has. -/
def ShowsOnly (P : Nat → Cell → Prop) (s : σ) : Prop := ∀ column v, Shows s column v → P column v

variable {P : Nat → Cell → Prop} {s t : σ}

lemma ShowsOnly.of_reaches (h : ShowsOnly P s) (hst : Reaches s t) : ShowsOnly P t := by
  rintro column v ⟨u, htu, hv⟩
  exact h column v ⟨u, hst.trans htu, hv⟩

lemma ShowsOnly.advance (h : ShowsOnly P s) : ShowsOnly P (RowSource.advance s).2 :=
  h.of_reaches (.advance .refl)

lemma ShowsOnly.value (h : ShowsOnly P s) (i : Nat) (ty : SqlType) :
    ShowsOnly P (RowSource.value s i ty).2 := h.of_reaches (.value i ty .refl)

lemma ShowsOnly.close (h : ShowsOnly P s) : ShowsOnly P (RowSource.close s).2 :=
  h.of_reaches (.close .refl)

end RowSource

open RowSource

/-- Sources that are alike, and show cells of certain kinds only. -/
theorem AnswerAlike.showsOnly {R : Nat → σ → τ → Prop} (hR : AnswerAlike R)
    (P : Nat → Cell → Prop) : AnswerAlike fun n s t => R n s t ∧ ShowsOnly P s where
  mono h := ⟨hR.mono h.1, h.2⟩
  columnCount h := hR.columnCount h.1
  columnLabel i h := hR.columnLabel i h.1
  advance h := ⟨(hR.advance h.1).fst_eq, (hR.advance h.1).snd, h.2.advance⟩
  value i ty h := ⟨(hR.value i ty h.1).fst_eq, (hR.value i ty h.1).snd, h.2.value i ty⟩
  close h := ⟨(hR.close h.1).fst_eq, (hR.close h.1).snd, h.2.close⟩

lemma Still.showsOnly {R : σ → τ → Prop} (hR : Still R) (P : Nat → Cell → Prop) :
    Still fun s t => R s t ∧ ShowsOnly P s where
  value h hlost := ⟨hR.value h.1 hlost, h.2⟩

/-! ### Leaves -/

namespace MemorySource

variable {m : MemorySource}

lemma mem_rows_of_current {r : Row} (h : m.current = .ok r) : r ∈ m.rows := by
  rw [current] at h
  split at h
  · cases h
  · split at h
    · cases h
    · split at h
      next hrow =>
        cases h
        exact List.mem_of_getElem? hrow
      · cases h

lemma exists_row_of_value {column : Nat} {v : Cell} (h : (m.value (column + 1) .any).1 = .ok v) :
    ∃ r ∈ m.rows, r[column]? = some v := by
  have hread : m.read (column + 1) .any = .ok v := by
    rw [value] at h
    split at h
    next hread =>
      rw [hread]
      exact h
    · cases h
  rw [read] at hread
  split at hread
  · cases hread
  next r hr =>
    simp only [Cell.coerce_any] at hread
    split at hread
    next hcell =>
      cases hread
      exact ⟨r, mem_rows_of_current hr, hcell⟩
    · cases hread

end MemorySource

namespace ScriptedSource

lemma origin_of_reaches {s t : ScriptedSource} (h : Reaches s t) : t.origin = s.origin := by
  induction h with
  | refl => rfl
  | advance _ ih => exact (origin_advance _).trans ih
  | value i ty _ ih => exact (origin_value _ i ty).trans ih
  | close _ ih => exact (origin_close _).trans ih

/-- A leaf shows no cells but those of its rows. -/
lemma exists_row_of_shows {s : ScriptedSource} {column : Nat} {v : Cell} (h : Shows s column v) :
    ∃ r ∈ s.memory.rows, r[column]? = some v := by
  obtain ⟨t, hst, hv⟩ := h
  have hrows : t.memory.rows = s.memory.rows := congrArg (·.memory.rows) (origin_of_reaches hst)
  replace hv : (t.value (column + 1) .any).1 = .ok v := hv
  rw [value] at hv
  split at hv
  · cases hv
  · rw [← hrows]
    exact MemorySource.exists_row_of_value hv

/-- A leaf shows only cells of the kinds that those of its rows have. -/
lemma showsOnly_of_rows {P : Nat → Cell → Prop} {s : ScriptedSource}
    (h : ∀ r ∈ s.memory.rows, ∀ column v, r[column]? = some v → P column v) : ShowsOnly P s := by
  intro column v hv
  obtain ⟨r, hr, hcell⟩ := exists_row_of_shows hv
  exact h r hr column v hcell

end ScriptedSource

/-! ### Shards -/

namespace Shard

variable {P : Nat → Cell → Prop} {s : Shard σ}

lemma showsOnly_advance (h : ShowsOnly P s.source) : ShowsOnly P s.advance.2.source := by
  have hsource := h.advance
  rw [advance]
  split
  · exact h
  · split <;> next hadv => rwa [hadv] at hsource

lemma showsOnly_value (h : ShowsOnly P s.source) (i : Nat) (ty : SqlType) :
    ShowsOnly P (s.value i ty).2.source := by
  have hsource := h.value i ty
  rw [value]
  split <;> next hv => rwa [hv] at hsource

lemma fst_value_eq_ok {i : Nat} {ty : SqlType} {v : Cell} (h : (s.value i ty).1 = .ok v) :
    (RowSource.value s.source i ty).1 = .ok v := by
  rw [value] at h
  split at h
  next hv =>
    rw [hv]
    exact h
  · cases h

/-- Reading some columns comes to cells that these can show. -/
lemma showsOnly_readColumns (h : ShowsOnly P s.source) (columns : List Nat) :
    ShowsOnly P (s.readColumns columns).2.source ∧
      ∀ cells, (s.readColumns columns).1 = .ok cells → List.Forall₂ P columns cells := by
  induction columns generalizing s with
  | nil =>
    refine ⟨h, ?_⟩
    rintro cells ⟨⟩
    exact .nil
  | cons i columns ih =>
    have hshown := showsOnly_value h (i + 1) .any
    have hfirst {v : Cell} (hv : (s.value (i + 1) .any).1 = .ok v) : P i v :=
      h i v ⟨s.source, .refl, fst_value_eq_ok hv⟩
    rw [readColumns]
    rcases hv : s.value (i + 1) .any with ⟨e | v, s₁⟩ <;> rw [hv] at hshown hfirst
    · exact ⟨hshown, fun _ hcells => by cases hcells⟩
    · obtain ⟨hrest, hcells⟩ := ih hshown
      simp only
      rcases hr : s₁.readColumns columns with ⟨e | vs, s₂⟩ <;> rw [hr] at hrest hcells
      · exact ⟨hrest, fun _ hcells => by cases hcells⟩
      · refine ⟨hrest, ?_⟩
        rintro cells ⟨⟩
        exact .cons (hfirst rfl) (hcells vs rfl)

end Shard

end Confluence
