import Confluence.Cursor.Session
import Confluence.Proofs.Cursor.Alike
import Confluence.Proofs.Shape.Bind
import Confluence.Proofs.Source.Truncated
import Confluence.Proofs.Window

/-!
# Limits sent to the shards

A merge that does not group rows and has a limit needs no row of a shard behind the last row number
that the limit admits. Each row of the result advances a shard at most once, the rows in front of
the window included, and behind the window nothing is drawn.
-/

namespace Confluence

/-- The number of rows that a shard is asked for under a limit: `offset + rowCount` in the native
dialect, the last row number that is admitted in the others. -/
def Limit.rowsPerShard? (l : Limit) : Dialect → Option Nat
  | .native => l.rowCount.map fun b => (l.offset.map (·.value.toNat)).getD 0 + b.value.toNat
  | .rownum => l.last? .rownum
  | .top => l.last? .top
  | .unknown => none

lemma exists_ceiling_le {l : Limit} {d : Dialect} {c : Nat} (h : l.rowsPerShard? d = some c) :
    ∃ w ceiling, l.window? d = some w ∧ w.ceiling = some ceiling ∧ ceiling ≤ c := by
  cases d with
  | native =>
    obtain ⟨b, hb, rfl⟩ := Option.map_eq_some_iff.mp h
    refine ⟨_, _, rfl, ?_, Nat.min_le_left _ maxRowNumber⟩
    rw [hb]
    rfl
  | rownum => exact ⟨_, c, rfl, h, Nat.le_refl c⟩
  | top => exact ⟨_, c, rfl, h, Nat.le_refl c⟩
  | unknown => cases h

/-- Whether a strategy forms groups. -/
def Strategy.Groups : Strategy → Prop
  | .concat | .ordered => False
  | .groupedStream | .groupedMemory => True

namespace Window

variable {τ : Type} {next : τ → Except Failure Bool × τ}

lemma of_seek_eq_true {drop : Nat} {w w' : Window} {t t' : τ}
    (h : seek next drop w t = (.ok true, w', t')) :
    w' = { w with position := w.position + drop + 1 } := by
  induction drop generalizing w t with
  | zero =>
    rw [seek] at h
    rcases hnext : next t with ⟨e | _ | _, t₁⟩
    all_goals
      rw [hnext] at h
      cases h
    rfl
  | succ drop ih =>
    rw [seek] at h
    rcases hnext : next t with ⟨e | _ | _, t₁⟩
    all_goals rw [hnext] at h
    · cases h
    · cases h
    · rw [ih h]
      simp only [Nat.add_assoc, Nat.add_comm 1 drop]

end Window

namespace Cursor

variable {σ τ : Type} [RowSource σ] [RowSource τ] {R : Nat → σ → τ → Prop} {n : Nat}

/-! ### Ungrouped merges -/

/-- The same ungrouped merge over shards that are alike. -/
structure SameUngrouped (R : σ → τ → Prop) (x : Merger × List (Shard σ))
    (y : Merger × List (Shard τ)) : Prop where
  ungrouped : ¬ x.1.strategy.Groups
  alike : Agree (List.Forall₂ (Shard.Like R)) x y

/-- An ungrouped merge draws a row with at most one advance of every shard. -/
lemma draw_ungrouped_alike (hR : AnswerAlike R) :
    Window.DrawAlike (draw (σ := σ)) (draw (σ := τ)) fun n => SameUngrouped (R n) where
  mono h := ⟨h.ungrouped, h.alike.imp (shardsLike_mono hR)⟩
  draw {n x y} h := by
    obtain ⟨m, ss⟩ := x
    obtain ⟨m', ts⟩ := y
    obtain ⟨hungrouped, rfl, hss⟩ := h
    simp only [draw]
    cases m with
    | concat m =>
      have hadv := Merger.advance_concat_alike hR hss m
      exact ⟨hadv.fst_eq, not_false, hadv.snd⟩
    | ordered m =>
      have hadv := Merger.advance_ordered_alike hR hss m
      exact ⟨hadv.fst_eq, not_false, hadv.snd⟩
    | groupedStream m => exact absurd trivial hungrouped
    | groupedMemory m => exact absurd trivial hungrouped

lemma start_ungrouped (config : Config) {shape : Shape} {x : LabelIndex} {b : BoundShape}
    (hb : BoundShape.bind x shape = .ok b) (h : shape.isGrouped = false) :
    ¬ (Merger.start config b (Strategy.choose config b)).strategy.Groups := by
  have hb' : b.isGrouped = false := (BoundShape.isGrouped_of_bind hb).trans h
  rw [Strategy.choose, hb']
  by_cases horder : b.orderBy.isEmpty
  · simp [horder, Merger.start, Merger.strategy, Strategy.Groups]
  · simp [horder, Merger.start, Merger.strategy, Strategy.Groups]

/-! ### Level cursors -/

/-- Cursors that are alike for `n` more rows, which are as many as their window still admits. -/
structure Level (R : Nat → σ → τ → Prop) (n : Nat) (c : Cursor σ) (d : Cursor τ) : Prop where
  like : c.Like (R n) d
  lastNull_eq : c.lastNull = d.lastNull
  ungrouped : ¬ c.merger.strategy.Groups
  enough : c.phase = .beforeFirst ∨ c.phase = .onRow →
    ∃ p ceiling, c.pagination = some p ∧ p.window.ceiling = some ceiling ∧
      ceiling ≤ p.window.position + n

variable {c : Cursor σ} {d : Cursor τ}

/-- What reading leaves as it is. -/
lemma value_keeps (c : Cursor σ) (i : Nat) (t : SqlType) :
    (c.value i t).2.merger = c.merger ∧ (c.value i t).2.pagination = c.pagination ∧
      ((c.value i t).2.phase = c.phase ∨ (c.value i t).2.phase = .closed) ∧
      (c.value i t).2.lastNull = match (c.value i t).1 with
        | .ok v => v.isNull
        | .error _ => c.lastNull := by
  obtain ⟨r, ss, hread⟩ := c.exists_readColumn_eq i t
  rw [value, hread]
  split
  · exact ⟨rfl, rfl, Or.inl rfl, rfl⟩
  · exact ⟨rfl, rfl, Or.inl rfl, rfl⟩
  · exact ⟨rfl, rfl, Or.inl rfl, rfl⟩
  · split
    · exact ⟨rfl, rfl, Or.inl rfl, rfl⟩
    · cases r with
      | ok v => exact ⟨rfl, rfl, Or.inl rfl, rfl⟩
      | error e =>
        simp only
        split
        · exact ⟨rfl, rfl, Or.inr rfl, rfl⟩
        · exact ⟨rfl, rfl, Or.inl rfl, rfl⟩

lemma Level.value (hR : AnswerAlike R) (h : c.Level R n d) (i : Nat) (t : SqlType) :
    Agree (Level R n) (c.value i t) (d.value i t) := by
  have hlike := value_alike hR h.like i t
  obtain ⟨hmerger, hlimit, hphase, hnull⟩ := c.value_keeps i t
  obtain ⟨-, -, -, hnull'⟩ := d.value_keeps i t
  refine ⟨hlike.fst_eq, hlike.snd, ?_, ?_, ?_⟩
  · rw [hnull, hnull', hlike.fst_eq, h.lastNull_eq]
  · rw [hmerger]
    exact h.ungrouped
  · intro hlive
    rw [hlimit]
    apply h.enough
    rcases hphase with hphase | hphase
    · rwa [hphase] at hlive
    · rw [hphase] at hlive
      rcases hlive with ⟨⟨⟩⟩ | ⟨⟨⟩⟩

lemma Level.shut (hR : AnswerAlike R) (h : c.Level R n d) : Agree (Level R n) c.shut d.shut := by
  have hlike := shut_alike hR h.like
  refine ⟨hlike.fst_eq, hlike.snd, h.lastNull_eq, h.ungrouped, ?_⟩
  rintro (⟨⟨⟩⟩ | ⟨⟨⟩⟩)

lemma Level.close (hR : AnswerAlike R) (h : c.Level R n d) :
    Agree (Level R n) c.close d.close := by
  obtain ⟨e, c', d', hc, hd, h'⟩ := (h.shut hR).exists_eq
  rw [Cursor.close, Cursor.close, hc, hd]
  cases e <;> exact ⟨rfl, h'⟩

lemma Level.drop (hR : AnswerAlike R) (h : c.Level R n d) : c.drop.Level R n d.drop := by
  have hshards := (closeShards_alike hR h.like.shards).snd
  exact ⟨⟨hshards, h.like.labels_eq, h.like.merger, h.like.pagination_eq,
    h.like.rowNumberColumn_eq, h.like.phase_eq⟩, h.lastNull_eq, h.ungrouped, h.enough⟩

/-- Within a window, what it draws from the shards leaves them alike for the rows that it may still
draw. -/
lemma Level.drawInWindow (hR : AnswerAlike R) (h : c.Level R n d)
    (hlive : c.phase = .beforeFirst ∨ c.phase = .onRow) :
    ∃ k r c' d', c.drawInWindow = (r, c') ∧ d.drawInWindow = (r, d') ∧ c'.Like (R k) d' ∧
      c'.lastNull = d'.lastNull ∧ ¬ c'.merger.strategy.Groups ∧ (r = .ok true →
        ∃ p ceiling, c'.pagination = some p ∧ p.window.ceiling = some ceiling ∧
          ceiling ≤ p.window.position + k) := by
  obtain ⟨p, ceiling, hp, hceiling, hle⟩ := h.enough hlive
  have hsame : SameUngrouped (R n) (c.merger, c.shards) (d.merger, d.shards) :=
    ⟨h.ungrouped, h.like.merger, h.like.shards⟩
  simp only [Cursor.drawInWindow, ← h.like.pagination_eq, hp]
  cases hpast : p.window.isPast with
  | true =>
    simp only [Window.advance, hpast, if_true]
    refine ⟨n, .ok false, _, _, rfl, rfl, ⟨h.like.shards, h.like.labels_eq, h.like.merger, rfl,
      h.like.rowNumberColumn_eq, h.like.phase_eq⟩, h.lastNull_eq, h.ungrouped, ?_⟩
    rintro ⟨⟩
  | false =>
    have hlt := Window.isPast_eq_false_iff.mp hpast ceiling hceiling
    obtain ⟨k, hk⟩ : ∃ k, n = k + (p.window.skip - p.window.position) + 1 :=
      ⟨n - (p.window.skip - p.window.position) - 1, by omega⟩
    rw [hk] at hsame
    obtain ⟨r, w, x, y, hx, hy, hxy⟩ :=
      (Window.seek_alike (w := p.window) (draw_ungrouped_alike hR) hsame).exists_eq_beside
    obtain ⟨m, ss⟩ := x
    obtain ⟨m', ts⟩ := y
    obtain ⟨hungrouped, rfl, hss⟩ := hxy
    simp only [Window.advance, hpast, Bool.false_eq_true, if_false, hx, hy]
    refine ⟨k, r, _, _, rfl, rfl, ⟨hss, h.like.labels_eq, rfl, rfl, h.like.rowNumberColumn_eq,
      h.like.phase_eq⟩, h.lastNull_eq, hungrouped, ?_⟩
    rintro rfl
    have hw := Window.of_seek_eq_true hx
    refine ⟨{ p with window := w }, ceiling, rfl, ?_, ?_⟩
    · rw [hw]
      exact hceiling
    · simp only [hw]
      omega

lemma Level.advance (hR : AnswerAlike R) (h : c.Level R n d) :
    ∃ k, Agree (Level R k) c.advance d.advance := by
  rw [Cursor.advance, Cursor.advance, ← h.like.phase_eq]
  cases hphase : c.phase with
  | exhausted => exact ⟨n, rfl, h⟩
  | closed => exact ⟨n, rfl, h⟩
  | beforeFirst | onRow =>
    obtain ⟨k, r, c', d', hc, hd, hlike, hnull, hungrouped, henough⟩ :=
      h.drawInWindow hR (by simp [hphase])
    rw [hc, hd]
    refine ⟨k, ?_⟩
    rcases r with e | _ | _
    · refine ⟨rfl, (shut_alike hR hlike).snd, hnull, hungrouped, ?_⟩
      rintro (⟨⟨⟩⟩ | ⟨⟨⟩⟩)
    · refine ⟨rfl, hlike.phase _ _ _, hnull, hungrouped, ?_⟩
      rintro (⟨⟨⟩⟩ | ⟨⟨⟩⟩)
    · exact ⟨rfl, hlike.phase _ _ _, hnull, hungrouped, fun _ => henough rfl⟩

/-- Cursors that are level answer a call alike. -/
lemma Level.answer (hR : AnswerAlike R) (h : c.Level R n d) (call : ClientCall) :
    ∃ k, Agree (Level R k) (c.answer call) (d.answer call) := by
  cases call with
  | advance =>
    obtain ⟨k, hadv⟩ := h.advance hR
    exact ⟨k, congrArg _ hadv.fst_eq, hadv.snd⟩
  | value i t =>
    have hvalue := h.value hR i t
    exact ⟨n, congrArg _ hvalue.fst_eq, hvalue.snd⟩
  | valueByLabel label t =>
    simp only [Cursor.answer, valueByLabel, columnIndex?, h.like.labels_eq]
    split
    next i hi =>
      have hvalue := h.value hR i t
      exact ⟨n, congrArg _ hvalue.fst_eq, hvalue.snd⟩
    · exact ⟨n, rfl, h⟩
  | currentRow =>
    have hrow := readFrom_agree (fun i t h => Level.value hR h i t) h 1 c.columnCount
    rw [h.like.columnCount_eq] at hrow
    simp only [Cursor.answer, currentRow, h.like.columnCount_eq]
    exact ⟨n, congrArg _ hrow.fst_eq, hrow.snd⟩
  | wasNull =>
    have hnull : c.wasNull = d.wasNull := by
      rw [Cursor.wasNull, Cursor.wasNull, h.like.phase_eq, h.lastNull_eq]
    exact ⟨n, congrArg _ hnull, h⟩
  | close =>
    have hclose := h.close hR
    exact ⟨n, congrArg _ hclose.fst_eq, hclose.snd⟩
  | drop => exact ⟨n, rfl, h.drop hR⟩

/-- Cursors that are level answer any calls alike. -/
lemma Level.run (hR : AnswerAlike R) (h : c.Level R n d) (calls : List ClientCall) :
    (c.run calls).1 = (d.run calls).1 := by
  induction calls generalizing n c d with
  | nil => rfl
  | cons call calls ih =>
    obtain ⟨k, hanswer⟩ := h.answer hR call
    simp only [Cursor.run, hanswer.fst_eq]
    split
    · rfl
    · rw [ih hanswer.snd]

/-! ### Opening -/

omit [RowSource σ] [RowSource τ] in
/-- The cursors of a merge of sources that are alike up to the last row that is admitted. -/
lemma level_assemble {config : Config} {shape : Shape} {l : Limit} {ceiling : Nat} {w : Window}
    {ss : List (Shard σ)} {ts : List (Shard τ)} {x : LabelIndex} {b : BoundShape}
    (hungrouped : shape.isGrouped = false) (hlimit : shape.limit = some l)
    (hb : BoundShape.bind x shape = .ok b)
    (hw : l.window? (l.dialect.getD config.defaultDialect) = some w)
    (hceiling : w.ceiling = some ceiling) (hle : ceiling ≤ n)
    (hss : List.Forall₂ (Shard.Like (R n)) ss ts) :
    (assemble config shape ss x b).Level R n (assemble config shape ts x b) := by
  refine ⟨⟨hss, rfl, rfl, rfl, rfl, rfl⟩, rfl, start_ungrouped config hb hungrouped, ?_⟩
  intro _
  refine ⟨⟨l.dialect.getD config.defaultDialect, w⟩, ceiling, ?_, hceiling,
    Nat.le_trans hle (Nat.le_add_left n w.position)⟩
  simp only [assemble, paginationOf, hlimit, Option.bind_some, Pagination.ofLimit?, hw,
    Option.map_some]

/-- A merge that does not group rows, under a limit with a row count in a known dialect, needs of
each source only as many rows as the limit has in front of its end. A client that makes any calls
cannot tell whether the sources have more. -/
theorem session_truncate {config : Config} {shape : Shape} {l : Limit} {count : Nat}
    {sources : List MemorySource} (hungrouped : shape.isGrouped = false)
    (hlimit : shape.limit = some l)
    (hcount : l.rowsPerShard? (l.dialect.getD config.defaultDialect) = some count)
    (hfresh : ∀ s ∈ sources, s.position = 0) (calls : List ClientCall) :
    session config shape (sources.map (MemorySource.truncate count)) calls =
      session config shape sources calls := by
  obtain ⟨w, ceiling, hw, hceiling, hle⟩ := exists_ceiling_le hcount
  have hR := MemorySource.answerAlike_heads count
  have hheads : List.Forall₂ (MemorySource.Heads count count) sources
      (sources.map (MemorySource.truncate count)) := by
    rw [List.forall₂_map_right_iff, List.forall₂_same]
    intro s hs
    exact MemorySource.heads_truncate (hfresh s hs) count
  have hss := numberShards_alike hheads 0
  have hlabels := agreedLabels_alike hR hss
  cases hx : agreedLabels (numberShards 0 sources) with
  | error e => simp only [session, merge, plan, ← hlabels, hx]
  | ok x =>
    cases hb : BoundShape.bind x shape with
    | error e => simp only [session, merge, plan, ← hlabels, hx, hb]
    | ok b =>
      have hlevel := level_assemble hungrouped hlimit hb hw hceiling hle hss
      simp only [session, merge, plan, ← hlabels, hx, hb, hlevel.run hR calls]

/-- The second of five rows in order, from the first two rows of each source. -/
theorem session_truncate_of_five_rows :
    let l : Limit :=
      { offset := some { value := 1 }, rowCount := some { value := 2 }, dialect := some .top }
    let shape : Shape := { orderBy := [⟨.index 1, .asc, .first⟩], limit := some l }
    let sources : List MemorySource :=
      [{ labels := ["k"], rows := [[.text "a"], [.text "c"], [.text "e"]] },
        { labels := ["k"], rows := [[.text "b"], [.text "d"]] }]
    session {} shape (sources.map (MemorySource.truncate 2)) [.advance, .currentRow, .advance] =
      .ok [.advanced (.ok true), .row (.ok [.text "b"]), .advanced (.ok false)] := by
  intro l shape sources
  have hall : session {} shape sources [.advance, .currentRow, .advance] =
      .ok [.advanced (.ok true), .row (.ok [.text "b"]), .advanced (.ok false)] := rfl
  rw [← hall]
  exact session_truncate rfl rfl rfl (by decide) _

end Cursor

end Confluence
