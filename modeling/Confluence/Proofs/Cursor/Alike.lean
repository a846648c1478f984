import Confluence.Nested
import Confluence.Proofs.Merge.Alike

/-!
# Cursors that cannot be told apart

Cursors in the same state over sources that are alike are alike themselves, so nested sources are
alike if their leaves are. What a cursor read last and what it counted make no difference.
-/

namespace Confluence

/-! ### Windows -/

namespace Window

variable {τ υ : Type} {next : τ → Except Failure Bool × τ} {next' : υ → Except Failure Bool × υ}
  {T : Nat → τ → υ → Prop} {n : Nat} {t : τ} {u : υ}

/-- Relations that loosen with every draw: states related for one more draw take the same one. -/
structure DrawAlike (next : τ → Except Failure Bool × τ) (next' : υ → Except Failure Bool × υ)
    (T : Nat → τ → υ → Prop) : Prop where
  mono {n : Nat} {t : τ} {u : υ} : T (n + 1) t u → T n t u
  draw {n : Nat} {t : τ} {u : υ} : T (n + 1) t u → Agree (T n) (next t) (next' u)

lemma DrawAlike.mono_add (hT : DrawAlike next next' T) (k : Nat) (h : T (n + k) t u) : T n t u := by
  induction k with
  | zero => exact h
  | succ k ih => exact ih (hT.mono h)

lemma seek_alike (hT : DrawAlike next next' T) {drop : Nat} {w : Window}
    (h : T (n + drop + 1) t u) :
    Agree (Agree (T n)) (seek next drop w t) (seek next' drop w u) := by
  induction drop generalizing w t u with
  | zero =>
    obtain ⟨r, t₁, u₁, ht, hu, h₁⟩ := (hT.draw h).exists_eq
    rw [seek, seek, ht, hu]
    rcases r with e | _ | _ <;> exact ⟨rfl, rfl, h₁⟩
  | succ drop ih =>
    obtain ⟨r, t₁, u₁, ht, hu, h₁⟩ := (hT.draw h).exists_eq
    rw [seek, seek, ht, hu]
    rcases r with e | _ | _
    · exact ⟨rfl, rfl, hT.mono_add (drop + 1) h₁⟩
    · exact ⟨rfl, rfl, hT.mono_add (drop + 1) h₁⟩
    · exact ih h₁

lemma advance_alike (hT : DrawAlike next next' T) (w : Window)
    (h : T (n + (w.skip - w.position) + 1) t u) :
    Agree (Agree (T n)) (w.advance next t) (w.advance next' u) := by
  rw [advance, advance]
  split
  · exact ⟨rfl, rfl, hT.mono_add (w.skip - w.position + 1) h⟩
  · exact seek_alike hT h

end Window

namespace Cursor

variable {σ τ : Type} {R : Nat → σ → τ → Prop} {n : Nat} {c : Cursor σ} {d : Cursor τ}

/-- Cursors with related merges over shards whose sources are related, and otherwise in the same
state. -/
structure LikeBy (M : Merger → Merger → Prop) (R : σ → τ → Prop) (c : Cursor σ) (d : Cursor τ) :
    Prop where
  shards : List.Forall₂ (Shard.Like R) c.shards d.shards
  labels_eq : c.labels = d.labels
  merger : M c.merger d.merger
  pagination_eq : c.pagination = d.pagination
  rowNumberColumn_eq : c.rowNumberColumn = d.rowNumberColumn
  phase_eq : c.phase = d.phase

/-- Cursors in the same state over shards whose sources are related. -/
abbrev Like (R : σ → τ → Prop) (c : Cursor σ) (d : Cursor τ) : Prop := LikeBy Eq R c d

variable {M : Merger → Merger → Prop}

lemma LikeBy.imp {R R' : σ → τ → Prop} (h : c.LikeBy M R d) (hR : ∀ {s t}, R s t → R' s t) :
    c.LikeBy M R' d where
  shards := h.shards.imp fun _ _ hs => hs.imp hR
  labels_eq := h.labels_eq
  merger := h.merger
  pagination_eq := h.pagination_eq
  rowNumberColumn_eq := h.rowNumberColumn_eq
  phase_eq := h.phase_eq

lemma LikeBy.columnCount_eq {R : σ → τ → Prop} (h : c.LikeBy M R d) :
    c.columnCount = d.columnCount :=
  congrArg LabelIndex.size h.labels_eq

variable [RowSource σ] [RowSource τ]

/-! ### Opening -/

lemma readLabels_alike (hR : AnswerAlike R) {s : σ} {t : τ} (h : R n s t) (first k : Nat) :
    LabelIndex.readLabels s first k = LabelIndex.readLabels t first k := by
  induction k generalizing first with
  | zero => rfl
  | succ k ih => rw [LabelIndex.readLabels, LabelIndex.readLabels, hR.columnLabel first h, ih]

lemma ofSource_alike (hR : AnswerAlike R) {s : σ} {t : τ} (h : R n s t) :
    LabelIndex.ofSource s = LabelIndex.ofSource t := by
  rw [LabelIndex.ofSource, LabelIndex.ofSource, hR.columnCount h, readLabels_alike hR h]

lemma checkLabels_alike (hR : AnswerAlike R) {s : σ} {t : τ} (h : R n s t) (shard first : Nat)
    (labels : List String) :
    LabelIndex.checkLabels shard s first labels = LabelIndex.checkLabels shard t first labels := by
  induction labels generalizing first with
  | nil => rfl
  | cons l labels ih =>
    simp only [LabelIndex.checkLabels, hR.columnLabel first h, ih]

lemma checkShards_alike (hR : AnswerAlike R) {ss : List (Shard σ)} {ts : List (Shard τ)}
    (h : List.Forall₂ (Shard.Like (R n)) ss ts) (x : LabelIndex) :
    checkShards x ss = checkShards x ts := by
  induction h with
  | nil => rfl
  | cons hs _ ih =>
    simp only [checkShards, LabelIndex.checkSource, hs.number_eq, hR.columnCount hs.source,
      checkLabels_alike hR hs.source, ih]

lemma agreedLabels_alike (hR : AnswerAlike R) {ss : List (Shard σ)} {ts : List (Shard τ)}
    (h : List.Forall₂ (Shard.Like (R n)) ss ts) : agreedLabels ss = agreedLabels ts := by
  cases h with
  | nil => rfl
  | cons hs hss =>
    simp only [agreedLabels, ofSource_alike hR hs.source, checkShards_alike hR hss]

omit [RowSource σ] [RowSource τ] in
lemma numberShards_alike {R : σ → τ → Prop} {sources : List σ} {sources' : List τ}
    (h : List.Forall₂ R sources sources') (first : Nat) :
    List.Forall₂ (Shard.Like R) (numberShards first sources) (numberShards first sources') := by
  induction h generalizing first with
  | nil => exact .nil
  | cons hs _ ih => exact .cons ⟨rfl, rfl, rfl, hs⟩ (ih (first + 1))

/-! ### Closing -/

lemma closeShards_alike (hR : AnswerAlike R) {ss : List (Shard σ)} {ts : List (Shard τ)}
    (h : List.Forall₂ (Shard.Like (R n)) ss ts) :
    Agree (List.Forall₂ (Shard.Like (R n))) (closeShards ss) (closeShards ts) := by
  induction h with
  | nil => exact ⟨rfl, .nil⟩
  | @cons s t ss ts hs hss ih =>
    obtain ⟨⟨e, k⟩, ss₁, ts₁, hx, hy, h₁⟩ := ih.exists_eq
    obtain ⟨r, s₁, t₁, hx', hy', hs₁⟩ := (Shard.close_alike hR hs).exists_eq
    rw [closeShards, closeShards, hs.closed_eq, hx, hy, hx', hy']
    split
    · exact ⟨rfl, .cons hs h₁⟩
    · rcases r with e | u <;> exact ⟨rfl, .cons hs₁ h₁⟩

lemma shut_alike (hR : AnswerAlike R) (h : c.LikeBy M (R n) d) :
    Agree (LikeBy M (R n)) c.shut d.shut := by
  obtain ⟨⟨e, k⟩, ss, ts, hx, hy, h₁⟩ := (closeShards_alike hR h.shards).exists_eq
  rw [shut, shut, hx, hy]
  exact ⟨rfl, h₁, h.labels_eq, h.merger, h.pagination_eq, h.rowNumberColumn_eq, rfl⟩

lemma close_alike (hR : AnswerAlike R) (h : c.LikeBy M (R n) d) :
    Agree (LikeBy M (R n)) c.close d.close := by
  obtain ⟨r, c₁, d₁, hx, hy, h₁⟩ := (shut_alike hR h).exists_eq
  rw [close, close, hx, hy]
  cases r with
  | none => exact ⟨rfl, h₁⟩
  | some e => exact ⟨rfl, h₁⟩

lemma drop_alike (hR : AnswerAlike R) (h : c.LikeBy M (R n) d) : c.drop.LikeBy M (R n) d.drop := by
  obtain ⟨⟨e, k⟩, ss, ts, hx, hy, h₁⟩ := (closeShards_alike hR h.shards).exists_eq
  rw [drop, drop, hx, hy]
  exact ⟨h₁, h.labels_eq, h.merger, h.pagination_eq, h.rowNumberColumn_eq, h.phase_eq⟩

/-! ### Reading -/

/-- Read a column of the row that a merge over some shards is on. -/
def readAt (m : Merger) (i : Nat) (t : SqlType) (ss : List (Shard σ)) :
    Except Failure Cell × List (Shard σ) :=
  match m.current with
  | some (.shard k) =>
    match ss[k]? with
    | some s => ((s.value i t).1, ss.set k (s.value i t).2)
    | none => (.error (lostRow m.strategy), ss)
  | some (.row r) => (readCopy r i t, ss)
  | none => (.error (lostRow m.strategy), ss)

omit [RowSource τ] in
lemma readCurrent_eq (c : Cursor σ) (i : Nat) (t : SqlType) :
    c.readCurrent i t = ((readAt c.merger i t c.shards).1,
      { c with shards := (readAt c.merger i t c.shards).2 }) := by
  cases hplace : c.merger.current with
  | none =>
    simp only [readCurrent, readAt, hplace]
    rfl
  | some place =>
    cases place with
    | row r => simp only [readCurrent, readAt, hplace]
    | shard k =>
      cases hs : c.shards[k]? with
      | none =>
        simp only [readCurrent, readAt, hplace, hs]
        rfl
      | some s => simp only [readCurrent, readAt, hplace, hs]

omit [RowSource τ] in
/-- A column that does not show the row number is read where the row is. -/
lemma readColumn_eq_readCurrent {i : Nat} (h : c.rowNumberColumn ≠ some i ∨ c.pagination = none)
    (t : SqlType) : c.readColumn i t = c.readCurrent i t := by
  rw [readColumn]
  split
  next k p hk hp =>
    rw [if_neg]
    rintro rfl
    rcases h with h | h
    · exact h hk
    · cases hp.symm.trans h
  · rfl

omit [RowSource τ] in
/-- What is read on a row does not depend on what becomes of the cursor. -/
lemma fst_value_of_onRow (hphase : c.phase = .onRow) {i : Nat}
    (hi : ¬ (i = 0 ∨ c.columnCount < i)) (t : SqlType) :
    (c.value i t).1 = (c.readColumn i t).1 := by
  simp only [value, hphase, if_neg hi]
  rcases c.readColumn i t with ⟨e | v, c'⟩
  · simp only
    split <;> rfl
  · rfl

omit [RowSource τ] in
lemma exists_readColumn_eq (c : Cursor σ) (i : Nat) (t : SqlType) :
    ∃ r ss, c.readColumn i t = (r, { c with shards := ss }) := by
  rw [readColumn]
  split
  · split
    · exact ⟨_, c.shards, rfl⟩
    · exact ⟨_, _, c.readCurrent_eq i t⟩
  · exact ⟨_, _, c.readCurrent_eq i t⟩

lemma readAt_alike (hR : AnswerAlike R) {ss : List (Shard σ)} {ts : List (Shard τ)}
    (h : List.Forall₂ (Shard.Like (R n)) ss ts) (m : Merger) (i : Nat) (t : SqlType) :
    Agree (List.Forall₂ (Shard.Like (R n))) (readAt m i t ss) (readAt m i t ts) := by
  rw [readAt, readAt]
  split
  next k hk =>
    rcases forall₂_getElem? h k with ⟨hs, ht⟩ | ⟨s, t', hs, ht, hst⟩
    · rw [hs, ht]
      exact ⟨rfl, h⟩
    · have hv := Shard.value_alike hR hst i t
      rw [hs, ht]
      exact ⟨hv.fst_eq, forall₂_set_set h k hv.snd⟩
  · exact ⟨rfl, h⟩
  · exact ⟨rfl, h⟩

lemma readCurrent_alike [Merger.SameRow M] (hR : AnswerAlike R) (h : c.LikeBy M (R n) d) (i : Nat)
    (t : SqlType) : Agree (LikeBy M (R n)) (c.readCurrent i t) (d.readCurrent i t) := by
  have hread := readAt_alike hR h.shards d.merger i t
  have hrow : readAt c.merger i t c.shards = readAt d.merger i t c.shards := by
    rw [readAt, readAt, Merger.SameRow.current_eq h.merger, Merger.SameRow.strategy_eq h.merger]
  rw [readCurrent_eq, readCurrent_eq, hrow]
  exact ⟨hread.fst_eq, hread.snd, h.labels_eq, h.merger, h.pagination_eq, h.rowNumberColumn_eq,
    h.phase_eq⟩

lemma readColumn_alike [Merger.SameRow M] (hR : AnswerAlike R) (h : c.LikeBy M (R n) d) (i : Nat)
    (t : SqlType) : Agree (LikeBy M (R n)) (c.readColumn i t) (d.readColumn i t) := by
  rw [readColumn, readColumn, h.rowNumberColumn_eq, h.pagination_eq]
  split
  · split
    · exact ⟨rfl, h⟩
    · exact readCurrent_alike hR h i t
  · exact readCurrent_alike hR h i t

lemma value_alike [Merger.SameRow M] (hR : AnswerAlike R) (h : c.LikeBy M (R n) d) (i : Nat)
    (t : SqlType) : Agree (LikeBy M (R n)) (c.value i t) (d.value i t) := by
  rw [value, value, h.phase_eq, h.columnCount_eq]
  split
  · exact ⟨rfl, h⟩
  · exact ⟨rfl, h⟩
  · exact ⟨rfl, h⟩
  · split
    · exact ⟨rfl, h⟩
    · obtain ⟨r, c₁, d₁, hx, hy, h₁⟩ := (readColumn_alike hR h i t).exists_eq
      rw [hx, hy]
      cases r with
      | error e =>
        simp only
        split
        · exact ⟨rfl, (shut_alike hR h₁).snd⟩
        · exact ⟨rfl, h₁⟩
      | ok v =>
        exact ⟨rfl, h₁.shards, h₁.labels_eq, h₁.merger, h₁.pagination_eq,
          h₁.rowNumberColumn_eq, h₁.phase_eq⟩

/-- Whatever reading one column keeps, reading several columns keeps. -/
lemma readFrom_agree {S : Cursor σ → Cursor τ → Prop}
    (hvalue : ∀ {c d} i t, S c d → Agree S (c.value i t) (d.value i t)) (h : S c d)
    (first k : Nat) : Agree S (c.readFrom first k) (d.readFrom first k) := by
  induction k generalizing c d first with
  | zero => exact ⟨rfl, h⟩
  | succ k ih =>
    obtain ⟨r, c₁, d₁, hx, hy, h₁⟩ := (hvalue first .any h).exists_eq
    rw [readFrom, readFrom, hx, hy]
    cases r with
    | error e => exact ⟨rfl, h₁⟩
    | ok v =>
      obtain ⟨r, c₂, d₂, hx, hy, h₂⟩ := (ih h₁ (first + 1)).exists_eq
      simp only [hx, hy]
      cases r with
      | error e => exact ⟨rfl, h₂⟩
      | ok vs => exact ⟨rfl, h₂⟩

lemma valueByLabel_alike [Merger.SameRow M] (hR : AnswerAlike R) (h : c.LikeBy M (R n) d)
    (label : String) (t : SqlType) :
    Agree (LikeBy M (R n)) (c.valueByLabel label t) (d.valueByLabel label t) := by
  rw [valueByLabel, valueByLabel, columnIndex?, columnIndex?, h.labels_eq]
  split
  · exact value_alike hR h _ t
  · exact ⟨rfl, h⟩

lemma currentRow_alike [Merger.SameRow M] (hR : AnswerAlike R) (h : c.LikeBy M (R n) d) :
    Agree (LikeBy M (R n)) c.currentRow d.currentRow := by
  rw [currentRow, currentRow, h.columnCount_eq]
  exact readFrom_agree (fun i t h => value_alike hR h i t) h 1 d.columnCount

section Still

variable {E : σ → τ → Prop}

omit [RowSource σ] in
lemma still_readAt (hE : Still E) {ss : List (Shard σ)} {ts : List (Shard τ)}
    (h : List.Forall₂ (Shard.Like E) ss ts) {m : Merger} {i : Nat} {t : SqlType}
    (hlost : isLost (readAt m i t ts).1 = false) :
    List.Forall₂ (Shard.Like E) ss (readAt m i t ts).2 := by
  rw [readAt] at hlost ⊢
  split
  next k hk =>
    rw [hk] at hlost
    simp only at hlost
    split
    next s hs =>
      obtain ⟨s₀, hs₀, hlike⟩ := exists_of_forall₂_getElem? h hs
      rw [hs] at hlost
      exact forall₂_set h hs₀ (Shard.still_value hE hlike hlost)
    · exact h
  · exact h
  · exact h

omit [RowSource σ] in
lemma still_readColumn (hE : Still E) (h : c.LikeBy M E d) {i : Nat} {t : SqlType}
    (hlost : isLost (d.readColumn i t).1 = false) : c.LikeBy M E (d.readColumn i t).2 := by
  have hcurrent (hlost : isLost (d.readCurrent i t).1 = false) :
      c.LikeBy M E (d.readCurrent i t).2 := by
    rw [readCurrent_eq] at hlost ⊢
    exact ⟨still_readAt hE h.shards hlost, h.labels_eq, h.merger, h.pagination_eq,
      h.rowNumberColumn_eq, h.phase_eq⟩
  rw [readColumn] at hlost ⊢
  split
  next k p hk hp =>
    rw [hk, hp] at hlost
    simp only at hlost
    split
    · exact h
    next hi =>
      rw [if_neg hi] at hlost
      exact hcurrent hlost
  next hnone =>
    split at hlost
    next k p hk hp => exact absurd hp (hnone k p hk)
    · exact hcurrent hlost

omit [RowSource σ] in
/-- A read that does not lose its source leaves a cursor alike to what it was. -/
lemma still_value (hE : Still E) (h : c.LikeBy M E d) {i : Nat} {t : SqlType}
    (hlost : isLost (d.value i t).1 = false) : c.LikeBy M E (d.value i t).2 := by
  rw [value] at hlost ⊢
  split
  · exact h
  · exact h
  · exact h
  next hphase =>
    rw [hphase] at hlost
    simp only at hlost
    split
    · exact h
    next hi =>
      have hread := still_readColumn hE h (i := i) (t := t)
      rw [if_neg hi] at hlost
      rcases hr : d.readColumn i t with ⟨e | v, d₁⟩ <;> rw [hr] at hlost hread
      · simp only at hlost ⊢
        split
        next he =>
          rw [if_pos he] at hlost
          have hnot : e.isTransient = false := hlost
          rw [he] at hnot
          cases hnot
        next he => exact hread (by simpa [isLost] using he)
      · have h₁ := hread rfl
        exact ⟨h₁.shards, h₁.labels_eq, h₁.merger, h₁.pagination_eq, h₁.rowNumberColumn_eq,
          h₁.phase_eq⟩

end Still

/-! ### Advancing -/

variable {E : σ → τ → Prop}

lemma draw_alike (hM : Merger.StepAlike M E) :
    Window.DrawAlike (draw (σ := σ)) (draw (σ := τ))
      fun _ => Paired M (List.Forall₂ (Shard.Like E)) where
  mono h := h
  draw h := hM h.fst h.snd

lemma drawInWindow_alike (hM : Merger.StepAlike M E) (h : c.LikeBy M E d) :
    Agree (LikeBy M E) c.drawInWindow d.drawInWindow := by
  have hpair : Paired M (List.Forall₂ (Shard.Like E)) (c.merger, c.shards) (d.merger, d.shards) :=
    ⟨h.merger, h.shards⟩
  simp only [drawInWindow, ← h.pagination_eq]
  split
  · obtain ⟨r, ⟨m, ss⟩, ⟨m', ts⟩, hx, hy, hm, hss⟩ :=
      ((draw_alike hM).draw (n := 0) hpair).exists_eq
    rw [hx, hy]
    exact ⟨rfl, hss, h.labels_eq, hm, rfl, h.rowNumberColumn_eq, h.phase_eq⟩
  next p hp =>
    obtain ⟨r, w, ⟨m, ss⟩, ⟨m', ts⟩, hx, hy, hm, hss⟩ :=
      (Window.advance_alike (draw_alike hM) (n := 0) p.window hpair).exists_eq_beside
    rw [hx, hy]
    exact ⟨rfl, hss, h.labels_eq, hm, rfl, h.rowNumberColumn_eq, h.phase_eq⟩

omit [RowSource σ] [RowSource τ] in
/-- The same phase for cursors that are otherwise alike. -/
lemma LikeBy.phase {R : σ → τ → Prop} (h : c.LikeBy M R d) (phase : Phase) (k k' : Nat) :
    LikeBy M R { c with phase, rowsEmitted := k } { d with phase, rowsEmitted := k' } :=
  ⟨h.shards, h.labels_eq, h.merger, h.pagination_eq, h.rowNumberColumn_eq, rfl⟩

lemma advance_alikeBy (hE : AnswerAlike fun _ => E) (hM : Merger.StepAlike M E)
    (h : c.LikeBy M E d) : Agree (LikeBy M E) c.advance d.advance := by
  obtain ⟨r, c₁, d₁, hx, hy, h₁⟩ := (drawInWindow_alike hM h).exists_eq
  rw [advance, advance, h.phase_eq, hx, hy]
  split
  · exact ⟨rfl, h⟩
  · exact ⟨rfl, h⟩
  all_goals
    rcases r with e | _ | _
    · exact ⟨rfl, (shut_alike (n := 0) hE h₁).snd⟩
    · exact ⟨rfl, h₁.phase _ _ _⟩
    · exact ⟨rfl, h₁.phase _ _ _⟩

lemma advance_alike (hE : AnswerAlike fun _ => E) (h : c.Like E d) :
    Agree (Like E) c.advance d.advance := advance_alikeBy hE (Merger.stepAlike_eq hE) h

/-- Cursors with related merges over sources that are alike for good are alike for good. -/
theorem answerAlike_likeBy [Merger.SameRow M] (hE : AnswerAlike fun _ => E)
    (hM : Merger.StepAlike M E) : AnswerAlike fun _ => LikeBy (σ := σ) (τ := τ) M E where
  mono h := h
  columnCount h := h.columnCount_eq
  columnLabel {_ c d} i h := by
    show c.columnLabel i = d.columnLabel i
    rw [columnLabel, columnLabel, h.labels_eq]
  advance h := advance_alikeBy hE hM h
  value i t h := value_alike (n := 0) hE h i t
  close h := close_alike (n := 0) hE h

theorem answerAlike_like (hE : AnswerAlike fun _ => E) :
    AnswerAlike fun _ => Like (σ := σ) (τ := τ) E :=
  answerAlike_likeBy hE (Merger.stepAlike_eq hE)

/-- What a source is alike to: a relation that no answer and no reading tells from equality. -/
structure Blind (E : σ → σ → Prop) : Prop where
  alike : AnswerAlike fun _ => E
  still : Still E
  refl (s : σ) : E s s

lemma Blind.refl_shards {E : σ → σ → Prop} (hE : Blind E) (ss : List (Shard σ)) :
    List.Forall₂ (Shard.Like E) ss ss :=
  List.forall₂_same.mpr fun s _ => ⟨rfl, rfl, rfl, hE.refl s.source⟩

lemma Blind.refl_cursor {E : σ → σ → Prop} (hE : Blind E) (c : Cursor σ) : c.Like E c :=
  ⟨hE.refl_shards c.shards, rfl, rfl, rfl, rfl, rfl⟩

end Cursor

/-! ### Nested sources -/

namespace Nested

/-- Nested sources whose leaves and cursors differ at most in what was read last and in the calls
that were counted or noted. -/
def Like : (n : Nat) → Nested ScriptedSource n → Nested ScriptedSource n → Prop
  | 0 => ScriptedSource.Like
  | n + 1 => Sum.LiftRel ScriptedSource.Like (Cursor.Like (Like n))

lemma Like.refl (n : Nat) (s : Nested ScriptedSource n) : Like n s s := by
  induction n with
  | zero => exact ScriptedSource.Like.refl s
  | succ n ih =>
    cases s with
    | inl s => exact .inl (ScriptedSource.Like.refl s)
    | inr c =>
      refine .inr ⟨?_, rfl, rfl, rfl, rfl, rfl⟩
      exact List.forall₂_same.mpr fun s _ => ⟨rfl, rfl, rfl, ih s.source⟩

theorem answerAlike_like (n : Nat) : AnswerAlike fun _ => Like n := by
  induction n with
  | zero => exact ScriptedSource.answerAlike_like
  | succ n ih => exact ScriptedSource.answerAlike_like.sum (Cursor.answerAlike_like ih)

theorem still_like (n : Nat) : Still (Like n) := by
  induction n with
  | zero => exact ScriptedSource.still_like
  | succ n ih => exact ScriptedSource.still_like.sum ⟨fun h hlost => Cursor.still_value ih h hlost⟩

theorem blind_like (n : Nat) : Cursor.Blind (Like n) :=
  ⟨answerAlike_like n, still_like n, Like.refl n⟩

end Nested

end Confluence
