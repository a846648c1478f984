import Confluence.Cursor.Session
import Confluence.Proofs.Cursor.Alike
import Confluence.Proofs.Cursor.Lifecycle
import Confluence.Proofs.Merge.Promises

/-!
# Promises of cursors

A cursor on a row knows where the row is, and the shard that it points to sits on a row itself. So
no call breaks a promise, and a cursor that came to a row can be read until it moves on or is
closed.
-/

namespace Confluence

/-! ### Steps -/

lemma Cell.kind_of_coerce {c : Cell} {t : SqlType} {e : Failure} (h : c.coerce t = .error e) :
    e.kind ≠ .bug := by
  rw [coerce] at h
  split at h
  · cases h
  · split at h
    · cases h
    · cases h
      exact FailureKind.noConfusion

namespace Cursor

section Steps

variable {σ ι : Type} [RowSource σ] {P : ι → Shard σ → Prop} {F : Failure → Prop} {as : List ι}
  {c : Cursor σ}

/-- Drawing a row keeps of the shards what their calls keep. -/
lemma drawInWindow_leaves (hP : Shard.Upholds P F) (hm : c.merger.WellBound)
    (h : List.Forall₂ P as c.shards) :
    Leaves (fun b c' => (List.Forall₂ P as c'.shards ∧ c'.merger.WellBound) ∧
        (b = true → c'.merger.current.isSome = true))
      (fun e c' => F e ∧ List.Forall₂ P as c'.shards) c.drawInWindow := by
  have hdraw {t : Merger × List (Shard σ)} (ht : List.Forall₂ P as t.2 ∧ t.1.WellBound) :
      Leaves (fun b t' => (List.Forall₂ P as t'.2 ∧ t'.1.WellBound) ∧
          (b = true → t'.1.current.isSome = true))
        (fun e t' => F e ∧ List.Forall₂ P as t'.2) (draw t) :=
    (ht.2.advance hP ht.1).imp (fun _ _ h => ⟨⟨h.1, h.2.1⟩, h.2.2⟩) fun _ _ h => h
  rw [drawInWindow]
  split
  · refine Leaves.map (f := fun t : Merger × List (Shard σ) =>
      { c with merger := t.1, shards := t.2 }) ?_
    exact hdraw ⟨h, hm⟩
  next p hp =>
    refine Leaves.map (f := fun t : Window × Merger × List (Shard σ) =>
      { c with
        merger := t.2.1, shards := t.2.2, pagination := some { p with window := t.1 } }) ?_
    exact Window.advance_leaves hdraw p.window ⟨h, hm⟩

/-- Drawing a row changes nothing but the merge and its shards and the place in the window. -/
lemma exists_drawInWindow_eq (c : Cursor σ) : ∃ merger shards pagination,
    c.drawInWindow.2 = { c with merger, shards, pagination } := by
  rw [drawInWindow]
  split
  next hnone => exact ⟨_, _, none, by rw [← hnone]⟩
  · exact ⟨_, _, _, rfl⟩

lemma readAt_keeps (hP : Shard.Upholds P F) {ss : List (Shard σ)} (h : List.Forall₂ P as ss)
    (m : Merger) (i : Nat) (t : SqlType) : List.Forall₂ P as (readAt m i t ss).2 := by
  rw [readAt]
  split
  next k hk =>
    split
    next s hs =>
      obtain ⟨a, ha, hs'⟩ := exists_of_forall₂_getElem? h hs
      have hval := hP.value i t hs'
      refine forall₂_set h ha ?_
      rcases hr : s.value i t with ⟨e | v, s₁⟩
      · exact (hval.of_eq_error hr).2
      · exact hval.of_eq_ok hr
    · exact h
  · exact h
  · exact h

/-- A read fails as the shard on the row does, or because the row is lost, or else without a bug. -/
lemma of_readColumn_eq_error {Q : Failure → Prop} (hown : ∀ {e : Failure}, e.kind ≠ .bug → Q e)
    (hlost : c.merger.current = none → Q (lostRow c.merger.strategy)) {i : Nat} {t : SqlType}
    (hshard : ∀ k, c.merger.current = some (.shard k) →
      ∃ s, c.shards[k]? = some s ∧ ∀ e, (s.value i t).1 = .error e → Q e)
    {e : Failure} (he : (c.readColumn i t).1 = .error e) : Q e := by
  have hat (he : (readAt c.merger i t c.shards).1 = .error e) : Q e := by
    rw [readAt] at he
    split at he
    next k hk =>
      obtain ⟨s, hs, hvalue⟩ := hshard k hk
      simp only [hs] at he
      exact hvalue e he
    · simp only [readCopy] at he
      split at he
      · exact hown (Cell.kind_of_coerce he)
      · cases he
        exact hown FailureKind.noConfusion
    next hnone =>
      cases he
      exact hlost hnone
  rw [readColumn] at he
  split at he
  · split at he
    next p hp hk =>
      have hcell : (rowNumberCell _).coerce t = .error e := he
      exact hown (Cell.kind_of_coerce hcell)
    · rw [readCurrent_eq] at he
      exact hat he
  · rw [readCurrent_eq] at he
    exact hat he

lemma readColumn_keeps (hP : Shard.Upholds P F) (h : List.Forall₂ P as c.shards) (i : Nat)
    (t : SqlType) : List.Forall₂ P as (c.readColumn i t).2.shards := by
  have hcurrent : List.Forall₂ P as (c.readCurrent i t).2.shards := by
    rw [readCurrent_eq]
    exact readAt_keeps hP h c.merger i t
  rw [readColumn]
  split
  · split
    · exact h
    · exact hcurrent
  · exact hcurrent

end Steps

end Cursor

/-! ### Sources that break no promise -/

/-- The failure in an answer, if it is one. -/
def ClientAnswer.failure? : ClientAnswer → Option Failure
  | .advanced (.error e) => some e
  | .value (.error e) => some e
  | .row (.error e) => some e
  | .wasNull (.error e) => some e
  | .closed (.error e) => some e
  | .advanced (.ok _) | .value (.ok _) | .row (.ok _) | .wasNull (.ok _) | .closed (.ok _)
  | .dropped => none

/-- A source in such a state breaks no promise, and no call leads out of these states. -/
structure Promising {σ : Type} [RowSource σ] (P : σ → Prop) : Prop where
  columnLabel {s : σ} {i : Nat} {e : Failure} :
    P s → RowSource.columnLabel s i = .error e → e.isInternalBug = false
  advance {s : σ} : P s →
    Leaves (fun _ s' => P s') (fun e s' => e.isInternalBug = false ∧ P s') (RowSource.advance s)
  value {s : σ} (i : Nat) (t : SqlType) : P s →
    Leaves (fun _ s' => P s') (fun e s' => e.isInternalBug = false ∧ P s') (RowSource.value s i t)
  close {s : σ} : P s →
    Leaves (fun _ s' => P s') (fun e s' => e.isInternalBug = false ∧ P s') (RowSource.close s)

lemma Promising.sum {α β : Type} [RowSource α] [RowSource β] {P : α → Prop} {Q : β → Prop}
    (hP : Promising P) (hQ : Promising Q) : Promising (Sum.elim P Q) where
  columnLabel {s _ _} h hlabel := by
    cases s with
    | inl s => exact hP.columnLabel h hlabel
    | inr s => exact hQ.columnLabel h hlabel
  advance {s} h := by
    cases s with
    | inl s => exact (hP.advance h).map (f := Sum.inl)
    | inr s => exact (hQ.advance h).map (f := Sum.inr)
  value {s} i t h := by
    cases s with
    | inl s => exact (hP.value i t h).map (f := Sum.inl)
    | inr s => exact (hQ.value i t h).map (f := Sum.inr)
  close {s} h := by
    cases s with
    | inl s => exact (hP.close h).map (f := Sum.inl)
    | inr s => exact (hQ.close h).map (f := Sum.inr)

section Trusty

variable {σ ι : Type} [RowSource σ] {L : Lifecycle σ ι} {P : σ → Prop}

lemma Promising.upholds (hP : Promising P) :
    Shard.Upholds (fun (_ : Shard σ) s => P s.source) fun e => e.isInternalBug = false where
  own h := h
  advance {_ s} h := by
    have hadv := hP.advance h
    rw [Shard.advance]
    split
    · exact h
    · split
      next source hs => exact hadv.of_eq_ok hs
      next source hs => exact hadv.of_eq_ok hs
      next e source hs =>
        obtain ⟨he, hsource⟩ := hadv.of_eq_error hs
        exact ⟨(e.isInternalBug_within _).trans he, hsource⟩
  value {_ s} i t h := by
    have hval := hP.value i t h
    rw [Shard.value]
    split
    next c source hs => exact hval.of_eq_ok hs
    next e source hs =>
      obtain ⟨he, hsource⟩ := hval.of_eq_error hs
      exact ⟨(e.isInternalBug_within _).trans he, hsource⟩

lemma Promising.close_shard (hP : Promising P) {s : Shard σ} (h : P s.source) :
    Leaves (fun _ s' => P s'.source) (fun e s' => e.isInternalBug = false ∧ P s'.source)
      s.close := by
  rw [Shard.close]
  split
  · exact h
  · refine Leaves.map (f := fun source : σ => ({ s with source, closed := true } : Shard σ)) ?_
    exact hP.close h

namespace Cursor

/-- A cursor that calls of a client can lead to, over sources that break no promise. While it is on
a row, its merge knows where the row is. -/
structure Trusty (L : Lifecycle σ ι) (P : σ → Prop) (c : Cursor σ) : Prop where
  sound : ∃ as, L.Sound as c
  sources : ∀ s ∈ c.shards, P s.source
  wellBound : c.phase ≠ .closed → c.merger.WellBound
  current : c.phase = .onRow → c.merger.current.isSome = true

variable {c : Cursor σ}

/-! ### Closing -/

lemma closeShards_promising (hP : Promising P) {ss : List (Shard σ)}
    (h : ∀ s ∈ ss, P s.source) :
    (∀ e ∈ (closeShards ss).1.1, e.isInternalBug = false) ∧
      ∀ s ∈ (closeShards ss).2, P s.source := by
  induction ss with
  | nil =>
    refine ⟨?_, List.forall_mem_nil _⟩
    rintro _ ⟨⟩
  | cons s ss ih =>
    rw [List.forall_mem_cons] at h
    obtain ⟨he, hss⟩ := ih h.2
    have hclose := hP.close_shard h.1
    rw [closeShards]
    split
    · exact ⟨he, List.forall_mem_cons.mpr ⟨h.1, hss⟩⟩
    · rcases hs : s.close with ⟨e | u, s'⟩
      · obtain ⟨he', hs'⟩ := hclose.of_eq_error hs
        refine ⟨?_, List.forall_mem_cons.mpr ⟨hs', hss⟩⟩
        rintro _ ⟨⟩
        exact he'
      · exact ⟨he, List.forall_mem_cons.mpr ⟨hclose.of_eq_ok hs, hss⟩⟩

lemma trusty_shut (hP : Promising P) (hsound : ∃ as, L.Sound as c.shut.2)
    (h : ∀ s ∈ c.shards, P s.source) :
    (∀ e ∈ c.shut.1, e.isInternalBug = false) ∧ c.shut.2.Trusty L P := by
  obtain ⟨he, hss⟩ := closeShards_promising hP h
  refine ⟨he, ⟨hsound, hss, fun hopen => absurd rfl hopen, ?_⟩⟩
  rintro ⟨⟩

lemma Trusty.close (hP : Promising P) (h : c.Trusty L P) :
    Leaves (fun _ c' => c'.Trusty L P) (fun e c' => e.isInternalBug = false ∧ c'.Trusty L P)
      c.close := by
  obtain ⟨as, hsound⟩ := h.sound
  have hshut := trusty_shut hP ⟨as, (Lifecycle.sound_shut hsound.shards).1⟩ h.sources
  rw [Cursor.close]
  split
  next c₁ hc₁ =>
    rw [hc₁] at hshut
    exact hshut.2
  next e c₁ hc₁ =>
    rw [hc₁] at hshut
    exact ⟨hshut.1 e rfl, hshut.2⟩

/-! ### Advancing -/

omit [RowSource σ] in
lemma forall_source {ss ss' : List (Shard σ)}
    (h : List.Forall₂ (fun (_ : Shard σ) s => P s.source) ss ss') : ∀ s ∈ ss', P s.source :=
  forall_of_forall₂ h fun _ _ _ h => h

lemma Trusty.advance (hP : Promising P) (h : c.Trusty L P) :
    Leaves (fun _ c' => c'.Trusty L P) (fun e c' => e.isInternalBug = false ∧ c'.Trusty L P)
      c.advance := by
  obtain ⟨as, hsound⟩ := h.sound
  have hadv := hsound.advance
  rw [Cursor.advance] at hadv ⊢
  split at hadv
  · exact h
  · exact ⟨rfl, h⟩
  all_goals
    next hphase =>
      have hdraw := drawInWindow_leaves hP.upholds (h.wellBound (by simp [hphase]))
        (List.forall₂_same.mpr h.sources)
      rcases hr : c.drawInWindow with ⟨e | _ | _, c₁⟩ <;> rw [hr] at hdraw hadv
      · exact ⟨hdraw.1, (trusty_shut hP ⟨as, hadv.1⟩ (forall_source hdraw.2)).2⟩
      · refine ⟨⟨as, hadv.sound⟩, forall_source hdraw.1.1, fun _ => hdraw.1.2, ?_⟩
        rintro ⟨⟩
      · exact ⟨⟨as, hadv.sound⟩, forall_source hdraw.1.1, fun _ => hdraw.1.2,
          fun _ => hdraw.2 rfl⟩

/-! ### Reading -/

/-- The shard that the merge points to can be read, so reading breaks a promise only if its source
does. -/
lemma Trusty.readColumn (hP : Promising P) (h : c.Trusty L P) (hphase : c.phase = .onRow)
    (i : Nat) (t : SqlType) {e : Failure} (he : (c.readColumn i t).1 = .error e) :
    e.isInternalBug = false := by
  obtain ⟨as, hsound⟩ := h.sound
  refine of_readColumn_eq_error (Q := fun e => e.isInternalBug = false)
    Failure.isInternalBug_of_kind ?_ ?_ he
  · intro hnone
    have hcurrent := h.current hphase
    rw [hnone] at hcurrent
    cases hcurrent
  · intro k hk
    obtain ⟨p, s, -, hs, -⟩ := hsound.onRow hphase k hk
    refine ⟨s, hs, fun e he => ?_⟩
    have hval := hP.upholds.value (a := s) i t (h.sources s (List.mem_of_getElem? hs))
    exact (hval.of_eq_error (Prod.ext he rfl)).1

lemma Trusty.value (hP : Promising P) (h : c.Trusty L P) (i : Nat) (t : SqlType) :
    Leaves (fun _ c' => c'.Trusty L P) (fun e c' => e.isInternalBug = false ∧ c'.Trusty L P)
      (c.value i t) := by
  obtain ⟨as, hsound⟩ := h.sound
  have hval := hsound.value i t
  rw [Cursor.value] at hval ⊢
  split at hval
  · exact ⟨rfl, h⟩
  · exact ⟨rfl, h⟩
  · exact ⟨rfl, h⟩
  next hphase =>
    split
    · exact ⟨rfl, h⟩
    next hi =>
      rw [if_neg hi] at hval
      have hsources := forall_source (readColumn_keeps hP.upholds
        (List.forall₂_same.mpr h.sources) i t)
      have hfailure {e : Failure} := h.readColumn hP hphase i t (e := e)
      obtain ⟨r, shards, hr⟩ := c.exists_readColumn_eq i t
      rw [hr] at hval hsources hfailure ⊢
      rcases r with e | v
      · simp only at hval ⊢
        by_cases he : e.isTransient = true
        · rw [if_pos he] at hval ⊢
          exact ⟨hfailure rfl, (trusty_shut hP ⟨as, hval.1.sound⟩ hsources).2⟩
        · rw [if_neg he] at hval ⊢
          exact ⟨hfailure rfl, ⟨as, hval.1.sound⟩, hsources, h.wellBound, h.current⟩
      · exact ⟨⟨as, hval.sound⟩, hsources, h.wellBound, h.current⟩

lemma Trusty.valueByLabel (hP : Promising P) (h : c.Trusty L P) (label : String) (t : SqlType) :
    Leaves (fun _ c' => c'.Trusty L P) (fun e c' => e.isInternalBug = false ∧ c'.Trusty L P)
      (c.valueByLabel label t) := by
  rw [Cursor.valueByLabel]
  split
  · exact h.value hP _ t
  · exact ⟨rfl, h⟩

lemma Trusty.readFrom (hP : Promising P) (h : c.Trusty L P) (first n : Nat) :
    Leaves (fun _ c' => c'.Trusty L P) (fun e c' => e.isInternalBug = false ∧ c'.Trusty L P)
      (c.readFrom first n) := by
  induction n generalizing c first with
  | zero => exact h
  | succ n ih =>
    have hval := h.value hP first .any
    rw [Cursor.readFrom]
    split
    next e c₁ hc₁ => exact hval.of_eq_error hc₁
    next v c₁ hc₁ =>
      have hrest := ih (hval.of_eq_ok hc₁) (first + 1)
      split
      next e c₂ hc₂ => exact hrest.of_eq_error hc₂
      next vs c₂ hc₂ => exact hrest.of_eq_ok hc₂

omit [RowSource σ] in
lemma isInternalBug_of_columnLabel {i : Nat} {e : Failure} (h : c.columnLabel i = .error e) :
    e.isInternalBug = false := by
  rw [columnLabel] at h
  split at h
  · cases h
  · cases h
    rfl

/-- Cursors over sources that break no promise break none. -/
theorem promising_trusty (hP : Promising P) :
    Promising (Trusty L P : Cursor σ → Prop) where
  columnLabel _ hlabel := isInternalBug_of_columnLabel hlabel
  advance h := h.advance hP
  value i t h := h.value hP i t
  close h := h.close hP

/-! ### Sessions -/

lemma Trusty.of_leaves {α : Type} {x : Except Failure α × Cursor σ}
    {f : Except Failure α → ClientAnswer}
    (h : Leaves (fun _ c' => c'.Trusty L P) (fun e c' => e.isInternalBug = false ∧ c'.Trusty L P) x)
    (hok : ∀ v, (f (.ok v)).failure? = none) (herror : ∀ e, (f (.error e)).failure? = some e) :
    (∀ e ∈ (f x.1).failure?, e.isInternalBug = false) ∧ x.2.Trusty L P := by
  rcases x with ⟨e | v, c'⟩
  · refine ⟨fun e' he' => ?_, h.2⟩
    obtain rfl := Option.some.inj ((herror e).symm.trans he')
    exact h.1
  · refine ⟨fun e' he' => ?_, h⟩
    rw [hok] at he'
    cases he'

lemma Trusty.answer (hP : Promising P) (h : c.Trusty L P) {call : ClientCall}
    (hcall : call ≠ .drop) :
    (∀ e ∈ (c.answer call).1.failure?, e.isInternalBug = false) ∧
      (c.answer call).2.Trusty L P := by
  cases call with
  | advance => exact of_leaves (h.advance hP) (fun _ => rfl) fun _ => rfl
  | value i t => exact of_leaves (h.value hP i t) (fun _ => rfl) fun _ => rfl
  | valueByLabel label t => exact of_leaves (h.valueByLabel hP label t) (fun _ => rfl) fun _ => rfl
  | currentRow => exact of_leaves (h.readFrom hP 1 c.columnCount) (fun _ => rfl) fun _ => rfl
  | wasNull =>
    refine ⟨?_, h⟩
    simp only [Cursor.answer, wasNull]
    split
    · rintro _ ⟨⟩
    · rintro _ ⟨⟩
      rfl
  | close => exact of_leaves (h.close hP) (fun _ => rfl) fun _ => rfl
  | drop => exact absurd rfl hcall

/-- No answer in a session is a broken promise. -/
theorem Trusty.run_answers (hP : Promising P) (h : c.Trusty L P) (calls : List ClientCall) :
    ∀ a ∈ (c.run calls).1, ∀ e ∈ a.failure?, e.isInternalBug = false := by
  induction calls generalizing c with
  | nil => exact List.forall_mem_nil _
  | cons call calls ih =>
    by_cases hdrop : call = .drop
    · subst hdrop
      refine List.forall_mem_singleton.mpr ?_
      rintro _ ⟨⟩
    · obtain ⟨hanswer, hnext⟩ := h.answer hP hdrop
      simp only [Cursor.run, if_neg hdrop]
      exact List.forall_mem_cons.mpr ⟨hanswer, ih hnext⟩

lemma Trusty.run (hP : Promising P) (h : c.Trusty L P) {calls : List ClientCall}
    (hdrop : .drop ∉ calls) : (c.run calls).2.Trusty L P := by
  induction calls generalizing c with
  | nil => exact h
  | cons call calls ih =>
    rw [List.mem_cons, not_or] at hdrop
    simp only [Cursor.run, if_neg (Ne.symm hdrop.1)]
    exact ih (h.answer hP (Ne.symm hdrop.1)).2 hdrop.2

/-! ### Opening -/

lemma isInternalBug_of_readLabels (hP : Promising P) {s : σ} (h : P s) {first k : Nat} {e : Failure}
    (he : LabelIndex.readLabels s first k = .error e) : e.isInternalBug = false := by
  induction k generalizing first with
  | zero => cases he
  | succ k ih =>
    rw [LabelIndex.readLabels] at he
    split at he
    next e₁ he₁ =>
      cases he
      exact hP.columnLabel h he₁
    · split at he
      next e₁ he₁ =>
        cases he
        exact ih he₁
      · cases he

lemma isInternalBug_of_checkLabels (hP : Promising P) {s : σ} (h : P s) {shard first : Nat}
    {labels : List String} {e : Failure}
    (he : LabelIndex.checkLabels shard s first labels = .error e) : e.isInternalBug = false := by
  induction labels generalizing first with
  | nil => cases he
  | cons l labels ih =>
    rw [LabelIndex.checkLabels] at he
    split at he
    next e₁ he₁ =>
      cases he
      exact hP.columnLabel h he₁
    · split at he
      · exact ih he
      · cases he
        rfl

lemma isInternalBug_of_checkShards (hP : Promising P) {x : LabelIndex} {ss : List (Shard σ)}
    (h : ∀ s ∈ ss, P s.source) {e : Failure} (he : checkShards x ss = .error e) :
    e.isInternalBug = false := by
  induction ss with
  | nil => cases he
  | cons s ss ih =>
    rw [List.forall_mem_cons] at h
    rw [checkShards] at he
    split at he
    next e₁ he₁ =>
      cases he
      rw [LabelIndex.checkSource] at he₁
      split at he₁
      · cases he₁
        rfl
      · exact isInternalBug_of_checkLabels hP h.1 he₁
    · exact ih h.2 he

/-- Labels that cannot be read or agreed on break no promise. -/
lemma isInternalBug_of_agreedLabels (hP : Promising P) {ss : List (Shard σ)}
    (h : ∀ s ∈ ss, P s.source) {e : Failure} (he : agreedLabels ss = .error e) :
    e.isInternalBug = false := by
  cases ss with
  | nil =>
    cases he
    rfl
  | cons s ss =>
    rw [List.forall_mem_cons] at h
    rw [agreedLabels] at he
    split at he
    next e₁ he₁ =>
      cases he
      rw [Failure.isInternalBug_within]
      rw [LabelIndex.ofSource] at he₁
      split at he₁
      · cases he₁
      next e₂ he₂ =>
        cases he₁
        exact isInternalBug_of_readLabels hP h.1 he₂
    · split at he
      next e₁ he₁ =>
        cases he
        exact isInternalBug_of_checkShards hP h.2 he₁
      · cases he

omit [RowSource σ] in
lemma promising_numberShards {sources : List σ} (h : ∀ s ∈ sources, P s) :
    ∀ s ∈ numberShards 0 sources, P s.source := by
  have hlike : List.Forall₂ (fun _ s => P s) sources sources := List.forall₂_same.mpr h
  exact forall_of_forall₂ (numberShards_alike hlike 0) fun _ _ _ hs => hs.source

/-- A merge that does not open breaks no promise. -/
lemma isInternalBug_of_merge (hP : Promising P) {config : Config} {shape : Shape}
    {sources given : List σ} (h : ∀ s ∈ sources, P s) {e : Failure}
    (hmerge : merge config shape sources = .error (e, given)) : e.isInternalBug = false := by
  rw [merge] at hmerge
  split at hmerge
  · cases hmerge
  next e₁ hplan =>
    cases hmerge
    rw [plan] at hplan
    split at hplan
    next e₂ he₂ =>
      cases hplan
      exact isInternalBug_of_agreedLabels hP (promising_numberShards h) he₂
    · split at hplan
      next e₂ he₂ =>
        cases hplan
        exact BoundShape.isInternalBug_of_bind he₂
      · cases hplan

lemma trusty_of_merge {config : Config} {shape : Shape} {sources : List σ} {as : List ι}
    (hready : List.Forall₂ L.Ready as sources) (h : ∀ s ∈ sources, P s)
    (hmerge : merge config shape sources = .ok c) : c.Trusty L P := by
  have hsound := Lifecycle.sound_of_merge hready hmerge
  obtain ⟨x, b, -, hb, rfl⟩ := of_merge_eq_ok hmerge
  refine ⟨⟨as, hsound⟩, promising_numberShards h, fun _ => Merger.wellBound_start hb config _, ?_⟩
  rintro ⟨⟩

end Cursor

end Trusty

end Confluence
