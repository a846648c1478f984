import Confluence.Cursor.Asks
import Confluence.Proofs.Cursor.Alike
import Confluence.Proofs.Cursor.Lifecycle
import Confluence.Proofs.Merge.Choice

/-!
# Another run of the same merge

In another run a grouped merge in memory may choose otherwise among keys that are equal to a new one,
and so may every merge below it. That is only seen where a group column shows floats and decimals
that are rounded against each other. Everywhere else the runs have the same answers, drain to the
same rows, and ask for as many.
-/

namespace Confluence

open RowSource

namespace Cursor

variable {σ τ : Type} [RowSource σ] [RowSource τ] {c : Cursor σ} {d : Cursor τ}

/-! ### Draining cursors that are alike -/

/-- Cursors that answer alike for good drain to the same rows. -/
lemma drain_agree {S : Cursor σ → Cursor τ → Prop} (hS : AnswerAlike fun _ => S) (h : S c d) :
    Agree S c.drain d.drain := by
  have hadvance {c c' : Cursor σ} {d : Cursor τ} {r : Except Failure Bool} (h : S c d)
      (hx : c.advance = (r, c')) : ∃ d', d.advance = (r, d') ∧ S c' d' := by
    obtain ⟨r', c₁, d₁, hx', hy, h₁⟩ := (hS.advance (n := 0) h).exists_eq
    cases hx.symm.trans hx'
    exact ⟨d₁, hy, h₁⟩
  have hread {c c' : Cursor σ} {d : Cursor τ} {r : Except Failure Row} (h : S c d)
      (hx : c.currentRow = (r, c')) : ∃ d', d.currentRow = (r, d') ∧ S c' d' := by
    have hcount : c.columnCount = d.columnCount := hS.columnCount (n := 0) h
    obtain ⟨r', c₁, d₁, hx', hy, h₁⟩ :=
      (readFrom_agree (fun i t h => hS.value (n := 0) i t h) h 1 c.columnCount).exists_eq
    cases hx.symm.trans hx'
    rw [hcount] at hy
    exact ⟨d₁, hy, h₁⟩
  fun_induction drain c generalizing d with
  | case1 c e c₁ hadv =>
    obtain ⟨d₁, hy, h₁⟩ := hadvance h hadv
    rw [drain_def, hy]
    exact ⟨rfl, h₁⟩
  | case2 c c₁ hadv =>
    obtain ⟨d₁, hy, h₁⟩ := hadvance h hadv
    rw [drain_def, hy]
    exact ⟨rfl, h₁⟩
  | case3 c c₁ hadv e c₂ hcurrent =>
    obtain ⟨d₁, hy, h₁⟩ := hadvance h hadv
    obtain ⟨d₂, hy', h₂⟩ := hread h₁ hcurrent
    rw [drain_def, hy]
    simp only [hy']
    exact ⟨rfl, h₂⟩
  | case4 c c₁ hadv row c₂ hcurrent rows e last hrest ih =>
    obtain ⟨d₁, hy, h₁⟩ := hadvance h hadv
    obtain ⟨d₂, hy', h₂⟩ := hread h₁ hcurrent
    obtain ⟨heq, hlast⟩ := ih h₂
    rw [hrest] at heq hlast
    rw [drain_def, hy]
    simp only [hy', ← heq]
    exact ⟨rfl, hlast⟩

variable {M : Merger → Merger → Prop} {E : σ → τ → Prop}

lemma noting_alike (hM : Merger.StepAlike M E) :
    Window.DrawAlike (Window.noting (draw (σ := σ))) (Window.noting (draw (σ := τ)))
      fun _ => Paired Eq (Paired M (List.Forall₂ (Shard.Like E))) where
  mono h := h
  draw h := by
    have hdraw := (draw_alike hM).draw (n := 0) h.snd
    simp only [Window.noting, h.fst, hdraw.fst_eq]
    exact ⟨rfl, rfl, hdraw.snd⟩

lemma asksOnAdvance_eq (hM : Merger.StepAlike M E) (h : c.LikeBy M E d) :
    c.asksOnAdvance = d.asksOnAdvance := by
  have hpair : Paired M (List.Forall₂ (Shard.Like E)) (c.merger, c.shards) (d.merger, d.shards) :=
    ⟨h.merger, h.shards⟩
  simp only [asksOnAdvance, h.phase_eq, ← h.pagination_eq]
  split
  · rfl
  · rfl
  all_goals
    split
    · rw [((draw_alike hM).draw (n := 0) hpair).fst_eq]
    next p hp =>
      exact (Window.advance_alike (noting_alike hM) (n := 0) p.window ⟨rfl, hpair⟩).snd.snd.fst

/-- Merges of cursors that are alike are asked for the same rows. -/
lemma asks_eq [Merger.SameRow M] (hE : AnswerAlike fun _ => E) (hM : Merger.StepAlike M E)
    (h : c.LikeBy M E d) : c.asks = d.asks := by
  induction c using asks.induct generalizing d with
  | case1 c ih =>
    rw [asks_def, asks_def, asksOnAdvance_eq hM h]
    congr 1
    obtain ⟨r, c₁, d₁, hx, hy, h₁⟩ := (advance_alikeBy hE hM h).exists_eq
    rw [hx, hy]
    rcases r with e | _ | _
    · rfl
    · rfl
    · obtain ⟨r, c₂, d₂, hx', hy', h₂⟩ := (currentRow_alike (n := 0) hE h₁).exists_eq
      simp only [hx', hy']
      rcases r with e | row
      · rfl
      · exact ih c₁ hx row c₂ hx' h₂

/-! ### Other choices -/

/-- The cursor of another run: over sources of that run, with a merge that differs at most in what
it chooses among equal keys, and then groups by columns that show no cells rounded against each
other. -/
def Rechosen (E : σ → τ → Prop) (c : Cursor σ) (d : Cursor τ) : Prop :=
  ∃ P, c.LikeBy (Merger.Rechosen P) (fun s t => E s t ∧ ShowsOnly P s) d

lemma Rechosen.refl {E : σ → σ → Prop} (hE : ∀ s, E s s) (c : Cursor σ) : c.Rechosen E c := by
  refine ⟨fun _ _ => True, ?_, rfl, .same c.merger, rfl, rfl, rfl⟩
  exact List.forall₂_same.mpr fun s _ => ⟨rfl, rfl, rfl, hE s.source, fun _ _ _ => trivial⟩

/-- The cursors of two runs answer alike. -/
theorem answerAlike_rechosen (hE : AnswerAlike fun _ => E) :
    AnswerAlike fun _ => Rechosen (σ := σ) (τ := τ) E := by
  have hlike (P : Nat → Cell → Prop) := answerAlike_likeBy (hE.showsOnly P)
    (Merger.stepAlike_rechosen (P := P) hE)
  constructor
  case mono => exact fun h => h
  case columnCount => exact fun ⟨P, h⟩ => (hlike P).columnCount (n := 0) h
  case columnLabel => exact fun i ⟨P, h⟩ => (hlike P).columnLabel (n := 0) i h
  case advance => exact fun ⟨P, h⟩ => ((hlike P).advance (n := 0) h).imp fun h => ⟨P, h⟩
  case value => exact fun i t ⟨P, h⟩ => ((hlike P).value (n := 0) i t h).imp fun h => ⟨P, h⟩
  case close => exact fun ⟨P, h⟩ => ((hlike P).close (n := 0) h).imp fun h => ⟨P, h⟩

/-- Reading makes no difference to what a cursor is in another run. -/
theorem still_rechosen (hE : Still E) : Still (Rechosen (σ := σ) (τ := τ) E) where
  value := fun ⟨P, h⟩ hlost => ⟨P, still_value (hE.showsOnly P) h hlost⟩

lemma Blind.rechosen {E : σ → σ → Prop} (hE : Blind E) : Blind (Rechosen E) where
  alike := answerAlike_rechosen hE.alike
  still := still_rechosen hE.still
  refl := Rechosen.refl hE.refl

namespace Rechosen

variable (hE : AnswerAlike fun _ => E)

include hE in
/-- The cursors of two runs drain to the same rows, and end in the same way. -/
theorem drain_eq (h : c.Rechosen E d) : c.drain.1 = d.drain.1 :=
  (drain_agree (answerAlike_rechosen hE) h).fst_eq

include hE in
/-- The merges of two runs are asked for the same rows. -/
theorem asks_eq (h : c.Rechosen E d) : c.asks = d.asks := by
  obtain ⟨P, h⟩ := h
  exact Cursor.asks_eq (hE.showsOnly P) (Merger.stepAlike_rechosen hE) h

omit [RowSource τ] in
lemma labels_eq (h : c.Rechosen E d) : c.labels = d.labels :=
  let ⟨_, h⟩ := h
  h.labels_eq

omit [RowSource τ] in
lemma rowNumberColumn_eq (h : c.Rechosen E d) : c.rowNumberColumn = d.rowNumberColumn :=
  let ⟨_, h⟩ := h
  h.rowNumberColumn_eq

omit [RowSource τ] in
lemma phase_eq (h : c.Rechosen E d) : c.phase = d.phase :=
  let ⟨_, h⟩ := h
  h.phase_eq

end Rechosen

/-- A merge of the sources of another run opens to the cursor of that run, if it probes in the same
way, or groups by columns that show no cells rounded against each other. -/
theorem exists_rechosen_of_merge (hE : AnswerAlike fun _ => E) {P : Nat → Cell → Prop}
    {config : Config} {shape : Shape} {sources : List σ} {sources' : List τ}
    (hsources : List.Forall₂ (fun s t => E s t ∧ ShowsOnly P s) sources sources')
    (hmerge : merge config shape sources = .ok c) (probing : Probing)
    (hchoice : probing = config.probing ∨ ∀ m, c.merger = .groupedMemory m →
      ∀ i ∈ m.grouping.groupColumns, Cell.NeverRounded (P i)) :
    ∃ d, merge { config with probing } shape sources' = .ok d ∧ c.Rechosen E d := by
  obtain ⟨x, b, hx, hb, rfl⟩ := of_merge_eq_ok hmerge
  have hshards := numberShards_alike hsources 0
  have hx' : agreedLabels (numberShards 0 sources') = .ok x := by
    rw [← hx]
    exact (agreedLabels_alike (n := 0) (hE.showsOnly P) hshards).symm
  refine ⟨assemble { config with probing } shape (numberShards 0 sources') x b, ?_, P, ?_⟩
  · simp only [merge, plan, hx', hb]
  · refine ⟨hshards, rfl, ?_, rfl, rfl, rfl⟩
    rcases hchoice with rfl | hP
    · exact .same _
    · show Merger.Rechosen P (.start config b (Strategy.choose config b))
        (.start { config with probing } b (Strategy.choose config b))
      replace hP : ∀ m, Merger.start config b (Strategy.choose config b) = .groupedMemory m →
        ∀ i ∈ m.grouping.groupColumns, Cell.NeverRounded (P i) := hP
      cases hchoose : Strategy.choose config b <;> rw [hchoose] at hP
      case groupedMemory => exact .reprobe (hP _ rfl) probing
      all_goals exact .same _

end Cursor

/-! ### Nested sources -/

namespace Nested

/-- Nested sources of two runs: the same leaves, and cursors that differ at most in what their
merges choose among equal keys, where that is not seen. -/
def Rechosen : (n : Nat) → Nested ScriptedSource n → Nested ScriptedSource n → Prop
  | 0 => ScriptedSource.Like
  | n + 1 => Sum.LiftRel ScriptedSource.Like (Cursor.Rechosen (Rechosen n))

theorem blind_rechosen (n : Nat) : Cursor.Blind (Rechosen n) := by
  induction n with
  | zero => exact ⟨ScriptedSource.answerAlike_like, ScriptedSource.still_like, ScriptedSource.Like.refl⟩
  | succ n ih =>
    refine ⟨ScriptedSource.answerAlike_like.sum ih.rechosen.alike,
      ScriptedSource.still_like.sum ih.rechosen.still, fun s => ?_⟩
    cases s with
    | inl s => exact .inl (ScriptedSource.Like.refl s)
    | inr c => exact .inr (ih.rechosen.refl c)

end Nested

/-- Over leaves whose group columns hold no floats, or hold no decimals, a merge is the same run
whatever it chooses among equal keys. -/
theorem Cursor.exists_rechosen_of_unmixed {config : Config} {shape : Shape}
    {sources : List ScriptedSource} {c : Cursor ScriptedSource}
    (hmerge : merge config shape sources = .ok c)
    (hunmixed : ∀ m, c.merger = .groupedMemory m → ∀ i ∈ m.grouping.groupColumns,
      ∃ t, (t = .float64 ∨ t = .decimal) ∧
        ∀ s ∈ sources, ∀ r ∈ s.memory.rows, ∀ v, r[i]? = some v → v.type? ≠ some t)
    (probing : Probing) : ∃ d, merge { config with probing } shape sources = .ok d ∧
      c.Rechosen ScriptedSource.Like d := by
  let P (i : Nat) (v : Cell) : Prop := ∃ s ∈ sources, ∃ r ∈ s.memory.rows, r[i]? = some v
  have hshown : List.Forall₂ (fun s t => ScriptedSource.Like s t ∧ ShowsOnly P s) sources sources :=
    List.forall₂_same.mpr fun s hs => ⟨.refl s, ScriptedSource.showsOnly_of_rows fun r hr _ _ hv =>
      ⟨s, hs, r, hr, hv⟩⟩
  refine exists_rechosen_of_merge ScriptedSource.answerAlike_like hshown hmerge probing
    (Or.inr fun m hm i hi => ?_)
  obtain ⟨t, ht, hnone⟩ := hunmixed m hm i hi
  have hP (v : Cell) (hv : P i v) : v.type? ≠ some t := by
    obtain ⟨s, hs, r, hr, hcell⟩ := hv
    exact hnone s hs r hr v hcell
  rcases ht with rfl | rfl
  · exact Cell.neverRounded_of_unmixed (Or.inl hP)
  · exact Cell.neverRounded_of_unmixed (Or.inr hP)

end Confluence
