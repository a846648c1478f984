import Confluence.Proofs.Cursor.Phases
import Mathlib.Logic.Relation

/-!
# Rows that can be read

While a cursor is on a row, so is the shard that the row is read from. So no read on a row is
premature, provided that the sources of the shards can be read where they are on a row themselves.
-/

namespace Confluence

/-- Whether a failure is to read where there is no current row. -/
def Failure.isPremature : Failure → Bool
  | .prematureAccess _ => true
  | _ => false

@[simp] lemma Failure.isPremature_within (context : String) (e : Failure) :
    (e.within context).isPremature = e.isPremature := by
  cases e <;> rfl

lemma Failure.isPremature_of_kind {e : Failure} (h : e.kind ≠ .bug) : e.isPremature = false := by
  cases e with
  | prematureAccess message => exact absurd rfl h
  | _ => rfl

namespace Cursor

variable {σ : Type} [RowSource σ] {c : Cursor σ}

lemma phase_of_advance (h : c.advance.1 = .ok true) : c.advance.2.phase = .onRow := by
  rw [Cursor.advance] at h ⊢
  split at h
  · cases h
  · cases h
  all_goals
    split at h
    next c₁ hc₁ => rfl
    · cases h
    · cases h

/-- A row lasts while it is read, unless its source is lost. -/
lemma phase_of_value (h : c.phase = .onRow) (i : Nat) (t : SqlType) :
    Leaves (fun _ c' => c'.phase = .onRow) (fun e c' => e.isTransient = false → c'.phase = .onRow)
      (c.value i t) := by
  obtain ⟨r, shards, hr⟩ := c.exists_readColumn_eq i t
  simp only [Cursor.value, h]
  split
  · exact fun _ => h
  · rw [hr]
    rcases r with e | v
    · simp only
      split
      next he => exact fun he' => absurd he (by simp [he'])
      · exact fun _ => h
    · exact h

/-- Nothing that a client reads on a row is read too early. -/
structure RowStands (c : Cursor σ) : Prop where
  value (i : Nat) (t : SqlType) (e : Failure) : (c.value i t).1 = .error e → e.isPremature = false
  valueByLabel (label : String) (t : SqlType) (e : Failure) :
    (c.valueByLabel label t).1 = .error e → e.isPremature = false
  currentRow (e : Failure) : c.currentRow.1 = .error e → e.isPremature = false

end Cursor

namespace Lifecycle

variable {σ ι : Type} [RowSource σ] {L : Lifecycle σ ι} {as : List ι} {c : Cursor σ}

/-- A source that is on a row can be read. -/
def Readable (L : Lifecycle σ ι) : Prop :=
  ∀ {a : ι} {s : σ} (i : Nat) (t : SqlType) {e : Failure}, L.OnRow a s →
    (RowSource.value s i t).1 = .error e → e.isPremature = false

lemma Readable.sum {α β : Type} [RowSource α] [RowSource β] {L : Lifecycle α ι}
    {M : Lifecycle β ι} (hL : L.Readable) (hM : M.Readable) : (L.sum M).Readable := by
  intro a s i t e h he
  cases s with
  | inl s => exact hL i t h he
  | inr s => exact hM i t h he

/-! ### Cursors on a row -/

/-- Reading a cursor on its row fails for a reason of its own. -/
lemma Sound.isPremature_of_value (h : L.Sound as c) (hL : L.Readable) (hphase : c.phase = .onRow)
    {i : Nat} {t : SqlType} {e : Failure} (he : (c.value i t).1 = .error e) :
    e.isPremature = false := by
  have hread {e : Failure} (he : (c.readColumn i t).1 = .error e) : e.isPremature = false := by
    refine Cursor.of_readColumn_eq_error (Q := fun e => e.isPremature = false)
      Failure.isPremature_of_kind (fun _ => rfl) ?_ he
    intro k hk
    obtain ⟨p, s, -, hs, hrow⟩ := h.onRow hphase k hk
    refine ⟨s, hs, fun e he => ?_⟩
    rw [Shard.value] at he
    split at he
    · cases he
    next e₁ source hvalue =>
      cases he
      rw [Failure.isPremature_within]
      exact hL i t hrow.onRow (congrArg Prod.fst hvalue)
  simp only [Cursor.value, hphase] at he
  split at he
  · cases he
    rfl
  · rcases hr : c.readColumn i t with ⟨e₁ | v, c₁⟩ <;> rw [hr] at he hread
    · simp only at he
      split at he <;>
      · cases he
        exact hread rfl
    · cases he

lemma Sound.isPremature_of_readFrom (h : L.Sound as c) (hL : L.Readable) (hphase : c.phase = .onRow)
    {first k : Nat} {e : Failure} (he : (c.readFrom first k).1 = .error e) :
    e.isPremature = false := by
  induction k generalizing c first e with
  | zero => cases he
  | succ k ih =>
    rw [Cursor.readFrom] at he
    split at he
    next e₁ c₁ hc₁ =>
      cases he
      exact h.isPremature_of_value hL hphase (congrArg Prod.fst hc₁)
    next v c₁ hc₁ =>
      have hkept := (h.value first .any).of_eq_ok hc₁
      have hphase₁ := (Cursor.phase_of_value hphase first .any).of_eq_ok hc₁
      split at he
      next e₂ c₂ hc₂ =>
        cases he
        exact ih hkept.sound hphase₁ (congrArg Prod.fst hc₂)
      · cases he

theorem Sound.rowStands (h : L.Sound as c) (hL : L.Readable) (hphase : c.phase = .onRow) :
    c.RowStands := by
  constructor
  · intro i t e he
    exact h.isPremature_of_value hL hphase he
  · intro label t e he
    rw [Cursor.valueByLabel] at he
    split at he
    · exact h.isPremature_of_value hL hphase he
    · cases he
      rfl
  · intro e he
    exact h.isPremature_of_readFrom hL hphase he

/-! ### Cursors as sources -/

/-- Cursors live as their shards do. They are on a row while their phase says so. -/
def rowCursor (L : Lifecycle σ ι) : Lifecycle (Cursor σ) Unit where
  Open _ c := ∃ as, L.Sound as c
  Ready _ c := ∃ as, L.Sound as c
  OnRow _ c := ∃ as, L.Sound as c ∧ c.phase = .onRow
  Closed _ _ := True
  open_of_ready h := h
  ready_of_onRow h := by
    obtain ⟨as, hc, -⟩ := h
    exact ⟨as, hc⟩
  advance {_ c} h := by
    obtain ⟨as, hc⟩ := h
    have hadv := hc.advance
    apply leaves_of
    · intro b hb
      have hsound : L.Sound as c.advance.2 := (hadv.of_eq_ok (Prod.ext hb rfl)).sound
      refine ⟨⟨as, hsound⟩, ?_⟩
      rintro rfl
      exact ⟨as, hsound, Cursor.phase_of_advance hb⟩
    · intro e he
      exact ⟨as, (hadv.of_eq_error (Prod.ext he rfl)).1⟩
  value {_ c} i t h := by
    obtain ⟨as, hc, hphase⟩ := h
    have hval := hc.value i t
    have hphase' := Cursor.phase_of_value hphase i t
    apply leaves_of
    · intro v hv
      have hkept := hval.of_eq_ok (Prod.ext hv rfl)
      exact ⟨as, hkept.sound, hphase'.of_eq_ok (Prod.ext hv rfl)⟩
    · intro e he
      have hkept := (hval.of_eq_error (Prod.ext he rfl)).1
      refine ⟨⟨as, hkept.sound⟩, fun htransient => ?_⟩
      exact ⟨as, hkept.sound, hphase'.of_eq_error (Prod.ext he rfl) htransient⟩
  close _ := trivial

theorem Readable.rowCursor (hL : L.Readable) : L.rowCursor.Readable := by
  intro _ c i t e h he
  obtain ⟨as, hc, hphase⟩ := h
  exact hc.isPremature_of_value hL hphase he

end Lifecycle

namespace Cursor

variable {σ ι : Type} [RowSource σ] {L : Lifecycle σ ι} {P : σ → Prop} {as : List ι} {c : Cursor σ}

/-! ### Promises kept in a session -/

/-- One row was drawn, or found not to be there. -/
def Draws (t t' : Merger × List (Shard σ)) : Prop := ∃ b, draw t = (.ok b, t')

lemma wellBound_of_draws {t t' : Merger × List (Shard σ)} (h : Relation.ReflTransGen Draws t t')
    (ht : t.1.WellBound) : t'.1.WellBound := by
  induction h with
  | refl => exact ht
  | @tail t₁ t₂ _ hstep ih =>
    obtain ⟨b, hb⟩ := hstep
    have hshards : List.Forall₂ (fun _ _ => True) t₁.2 t₁.2 := List.forall₂_same.mpr fun _ _ => trivial
    have hadv := ih.advance (Shard.upholds_true σ) hshards
    exact (hadv.of_eq_ok hb).2.1

/-- What the parts of this library promise each other holds of a cursor after its answers so far. -/
structure KeepsPromises (as : List ClientAnswer) (c : Cursor σ) : Prop where
  columnLabel (i : Nat) (e : Failure) : c.columnLabel i = .error e → e.isInternalBug = false
  /-- The row that the latest advance came to can be read until the cursor is closed. -/
  rowStands (as₁ as₂ : List ClientAnswer) : as = as₁ ++ .advanced (.ok true) :: as₂ →
    (∀ a ∈ as₂, a.isFinal = false ∧ ∀ r, a ≠ .advanced r) → c.RowStands
  /-- The results of every group have their place in its row, however many rows are drawn. -/
  finishesGroups (m : Merger) (ss : List (Shard σ)) : c.phase ≠ .closed →
    Relation.ReflTransGen Draws (c.merger, c.shards) (m, ss) → m.FinishesGroups ss

theorem keepsPromises_of_merge {config : Config} {shape : Shape} {sources : List σ}
    (hL : L.Readable) (hready : List.Forall₂ L.Ready as sources)
    (hmerge : merge config shape sources = .ok c) {calls : List ClientCall}
    (hdrop : .drop ∉ calls) : KeepsPromises (c.run calls).1 (c.run calls).2 := by
  obtain ⟨htidy, hm, -⟩ := tidy_of_merge hmerge
  have hsound := (Lifecycle.sound_of_merge hready hmerge).run_sound hdrop
  constructor
  · intro i e he
    exact isInternalBug_of_columnLabel he
  · intro as₁ as₂ has hstays
    exact hsound.rowStands hL (htidy.run_of_row (fun _ => hm) hdrop has hstays)
  · intro m ss hopen hdraws
    obtain ⟨-, -, -, -, hwell⟩ := htidy.run (fun _ => hm) hdrop
    exact (wellBound_of_draws hdraws (hwell hopen)).finishesGroups ss

end Cursor

end Confluence
