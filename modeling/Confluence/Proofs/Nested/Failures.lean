import Confluence.Nested
import Confluence.Proofs.Cursor.Answers
import Confluence.Proofs.Cursor.Choice
import Confluence.Proofs.Merge.WholeGroups
import Mathlib.Data.List.Permutation

/-!
# Failures let no wrong row out

A merge over sources with failure scripts is followed by the same merge over the sources without
their scripts, call by call, up to the first failure. This goes through every level of nested
merges, since a cursor whose sources keep their answers keeps its own.
-/

namespace Confluence

/-! ### Other leaves -/

section Map

variable {ℓ ℓ' : Type}

/-- The same source over the images of its leaves. -/
def Nested.map (f : ℓ → ℓ') : (n : Nat) → Nested ℓ n → Nested ℓ' n
  | 0, l => f l
  | n + 1, s => Sum.map f (Cursor.map (Nested.map f n)) s

/-- The same merge over the images of its parts. -/
def MergeOf.map {π π' : Type} (f : π → π') (m : MergeOf π) : MergeOf π' :=
  ⟨m.config, m.shape, m.parts.map f⟩

/-- The same plan over the images of its leaves. -/
def Plan.map (f : ℓ → ℓ') : (n : Nat) → Plan ℓ n → Plan ℓ' n
  | 0, l => f l
  | n + 1, p => Sum.map f (MergeOf.map (Plan.map f n)) p

variable [RowSource ℓ] [RowSource ℓ'] {f : ℓ → ℓ'}

/-- Leaves that keep their answers make sources of any depth that do. -/
theorem Nested.keepsAnswers_map (hf : KeepsAnswers f) (n : Nat) :
    KeepsAnswers (Nested.map f n) := by
  induction n with
  | zero => exact hf
  | succ n ih => exact hf.sumMap (Cursor.keepsAnswers_map ih)

namespace Plan

variable {α β : Type} {n : Nat} {openOne : α → Except (Failure × List ℓ) (Nested ℓ n)}
  {openOne' : β → Except (Failure × List ℓ') (Nested ℓ' n)} {g : α → β}

lemma openAll_map
    (hopen : ∀ {p s}, openOne p = .ok s → openOne' (g p) = .ok (Nested.map f n s))
    {ps : List α} {ss : List (Nested ℓ n)} (h : openAll openOne ps = .ok ss) :
    openAll openOne' (ps.map g) = .ok (ss.map (Nested.map f n)) := by
  induction ps generalizing ss with
  | nil =>
    cases h
    rfl
  | cons p ps ih =>
    rw [openAll] at h
    split at h
    · cases h
    next s hs =>
      split at h
      · cases h
      next ss₁ hss =>
        cases h
        simp only [List.map_cons, openAll, hopen hs, ih hss]

lemma openMerge_map (hf : KeepsAnswers f)
    (hopen : ∀ {p s}, openOne p = .ok s → openOne' (g p) = .ok (Nested.map f n s))
    {m : MergeOf α} {c : Cursor (Nested ℓ n)} (h : openMerge openOne m = .ok c) :
    openMerge openOne' (m.map g) = .ok (c.map (Nested.map f n)) := by
  rw [openMerge] at h
  split at h
  · cases h
  next sources hsources =>
    split at h
    next c₁ hmerge =>
      cases h
      have hmerge' := Cursor.merge_map (Nested.keepsAnswers_map hf n) hmerge
      simp only [openMerge, MergeOf.map, openAll_map hopen hsources, hmerge']
    · cases h

lemma openSource_map (hf : KeepsAnswers f) {p : Plan ℓ n} {s : Nested ℓ n}
    (h : openSource n p = .ok s) :
    openSource n (Plan.map f n p) = .ok (Nested.map f n s) := by
  induction n with
  | zero =>
    cases h
    rfl
  | succ n ih =>
    cases p with
    | inl l =>
      cases h
      rfl
    | inr m =>
      rw [openSource] at h
      split at h
      next c hc =>
        cases h
        have hc' := openMerge_map hf ih hc
        simp only [openSource, Plan.map, Sum.map_inr, hc']
        rfl
      · cases h

end Plan

end Map

/-! ### Merges in memory that fail -/

lemma Window.advance_ne_ok_true {τ : Type} {next : τ → Except Failure Bool × τ} {t : τ}
    {e : Failure} (h : (next t).1 = .error e) (w : Window) : (w.advance next t).1 ≠ .ok true := by
  rcases hnext : next t with ⟨r, t'⟩
  rw [hnext] at h
  simp only at h
  subst h
  rw [advance]
  split
  · rintro ⟨⟩
  · cases w.skip - w.position with
    | zero =>
      rw [seek, hnext]
      rintro ⟨⟩
    | succ drop =>
      rw [seek, hnext]
      rintro ⟨⟩

namespace Cursor

variable {σ : Type} [RowSource σ] {c : Cursor σ}

lemma drain_rows_eq_nil (h : c.advance.1 ≠ .ok true) : c.drain.1.1 = [] := by
  rw [drain]
  split
  · rfl
  · rfl
  next c' hadv =>
    rw [hadv] at h
    exact absurd rfl h

lemma advance_ne_ok_true (h : c.drawInWindow.1 ≠ .ok true) : c.advance.1 ≠ .ok true := by
  rw [advance]
  split
  · rintro ⟨⟩
  · rintro ⟨⟩
  all_goals
    split
    next c' hdraw =>
      rw [hdraw] at h
      exact absurd rfl h
    · rintro ⟨⟩
    · rintro ⟨⟩

/-- A cursor whose merge fails at its first step comes to no row. -/
lemma drain_rows_eq_nil_of_merger {e : Failure} (h : (c.merger.advance c.shards).1 = .error e) :
    c.drain.1.1 = [] := by
  apply drain_rows_eq_nil
  apply advance_ne_ok_true
  rw [drawInWindow]
  split
  · simp only [draw, h]
    rintro ⟨⟩
  next p hp =>
    have hdraw : (draw (c.merger, c.shards)).1 = .error e := h
    exact Window.advance_ne_ok_true hdraw p.window

/-- A merge opens with the merger of its strategy. -/
lemma merger_of_merge {config : Config} {shape : Shape} {sources : List σ}
    (h : Cursor.merge config shape sources = .ok c) :
    ∃ b, c.merger = .start config b (Strategy.choose config b) := by
  rw [merge] at h
  split at h
  next c₁ hplan =>
    cases h
    rw [plan] at hplan
    split at hplan
    · cases hplan
    · split at hplan
      · cases hplan
      next b hbind =>
        cases hplan
        exact ⟨b, rfl⟩
  · cases h

end Cursor

lemma Merger.rows_of_start {config : Config} {b : BoundShape} {s : Strategy} {m : GroupedMemory}
    (h : Merger.start config b s = .groupedMemory m) : m.rows = none := by
  cases s <;> cases h
  rfl

lemma GroupedMemory.advance_eq_error {σ : Type} [RowSource σ] {m : GroupedMemory}
    {ss : List (Shard σ)} {e : Failure} (hrows : m.rows = none) (h : (m.drain ss).1 = .error e) :
    (m.advance ss).1 = .error e := by
  rcases hdrain : m.drain ss with ⟨r, ss'⟩
  rw [hdrain] at h
  simp only at h
  subst h
  simp only [advance, hrows, hdrain]

/-! ### Failure scripts -/

namespace Plan

/-- A failure lets no wrong row out. If a merge opens over sources with failure scripts, it opens
over the same sources without their scripts, and its rows up to the first failure are the first rows
that come out there; if there is no failure, the scripts made no difference. The run without the
scripts may choose otherwise among equal keys where no group column shows cells that are rounded
against each other. A merge in memory that cannot be drained comes to no row at all, and what a
grouped merge publishes are whole groups. -/
theorem scripted_drain_spec (n : Nat) (m : MergeOf (Plan ScriptedSource n))
    {c : Cursor (Nested ScriptedSource n)} (h : openMerge (openSource n) m = .ok c) :
    (∃ c', openMerge (openSource n) (m.map (Plan.map ScriptedSource.unscripted n)) = .ok c' ∧
        ∀ c₁, c'.Rechosen (Nested.Rechosen n) c₁ →
          c.drain.1.1 <+: c₁.drain.1.1 ∧ (c.drain.1.2 = none → c₁.drain.1 = c.drain.1)) ∧
      (∀ g e, c.merger = .groupedMemory g → (g.drain c.shards).1 = .error e → c.drain.1.1 = []) ∧
      (∀ g g' (ss ss' : List (Shard (Nested ScriptedSource n))),
        GroupedStream.advance g ss = (.ok true, g', ss') → g.PublishesWhole ss g' ss') ∧
      ∀ g g' (ss ss' : List (Shard (Nested ScriptedSource n))), g.rows = none →
        GroupedMemory.advance g ss = (.ok true, g', ss') → g.PublishesWhole ss g' ss' := by
  refine ⟨?_, ?_, ?_, ?_⟩
  · -- taking the scripts away keeps answers, level by level up to the cursor
    have hf := ScriptedSource.keepsAnswers_unscripted
    have hc := openMerge_map hf (openSource_map hf) h
    refine ⟨_, hc, fun c₁ hc₁ => ?_⟩
    rw [← hc₁.drain_eq (Nested.blind_rechosen n).alike]
    exact Cursor.drain_map (Nested.keepsAnswers_map hf n) c
  · intro g e hg hdrain
    have hrows : g.rows = none := by
      rw [openMerge] at h
      split at h
      · cases h
      · split at h
        next c₁ hmerge =>
          cases h
          obtain ⟨b, hb⟩ := Cursor.merger_of_merge hmerge
          exact Merger.rows_of_start (hb.symm.trans hg)
        · cases h
    apply Cursor.drain_rows_eq_nil_of_merger
    rw [hg]
    exact GroupedMemory.advance_eq_error hrows hdrain
  · intro g g' ss ss' hadv
    exact GroupedStream.publishesWhole_of_advance hadv
  · intro g g' ss ss' hrows hadv
    exact GroupedMemory.publishesWhole_of_advance hrows hadv

/-- A leaf beside a nested merge whose only leaf is lost once two of its three rows were read. -/
def lostShardMerge (shape : Shape) : MergeOf (Plan ScriptedSource 1) where
  config := {}
  shape := shape
  parts :=
    [.inl { memory := { labels := ["k", "t"], rows := [[.text "a", .text "x"]] } },
      .inr {
        config := {}
        shape := {}
        parts := [{
          memory := {
            labels := ["k", "t"]
            rows := [[.text "a", .text "y"], [.text "b", .null], [.text "c", .null]] }
          script := { advance := some (2, Failure.io "lost") } }] }]

/-- In order, the rows read before the shard was lost come out; in groups, none does. -/
theorem scripted_drain_of_lost_shard :
    let ordered : Shape := { orderBy := [⟨.index 1, .asc, .first⟩] }
    let grouped : Shape :=
      { groupBy := [⟨.index 1, .asc, .first⟩], orderBy := [⟨.index 2, .asc, .first⟩] }
    let rows : List Row :=
      [[.text "a", .text "x"], [.text "a", .text "y"], [.text "b", .null]]
    (∃ c c', openMerge (openSource 1) (lostShardMerge ordered) = .ok c ∧
        openMerge (openSource 1)
          ((lostShardMerge ordered).map (Plan.map ScriptedSource.unscripted 1)) = .ok c' ∧
        c.drain.1 = (rows, some (.io "lost")) ∧ rows <+: c'.drain.1.1) ∧
      ∃ c, openMerge (openSource 1) (lostShardMerge grouped) = .ok c ∧ c.drain.1.1 = [] := by
  intro ordered grouped rows
  constructor
  · have hrun : (openMerge (openSource 1) (lostShardMerge ordered)).map (fun c => c.drain.1) =
        .ok (rows, some (.io "lost")) := by
      simp only [lostShardMerge, ordered, rows]
      cbv
    cases hc : openMerge (openSource 1) (lostShardMerge ordered) with
    | error e =>
      rw [hc] at hrun
      cases hrun
    | ok c =>
      rw [hc, Except.map, Except.ok.injEq] at hrun
      obtain ⟨⟨c', hc', hruns⟩, -⟩ := scripted_drain_spec 1 (lostShardMerge ordered) hc
      obtain ⟨hrows, -⟩ := hruns c' (.refl (Nested.blind_rechosen 1).refl c')
      rw [hrun] at hrows
      exact ⟨c, c', rfl, hc', hrun, hrows⟩
  · let m : GroupedMemory :=
      { config := {}, grouping := ⟨2, [0], [], Config.defaultAverageScale⟩,
        order := [⟨1, .asc, .first⟩] }
    have hrun : (openMerge (openSource 1) (lostShardMerge grouped)).map
        (fun c => (c.merger, (m.drain c.shards).1)) =
          .ok (.groupedMemory m, .error (.io "lost")) := by
      simp only [lostShardMerge, grouped, m]
      cbv
    cases hc : openMerge (openSource 1) (lostShardMerge grouped) with
    | error e =>
      rw [hc] at hrun
      cases hrun
    | ok c =>
      rw [hc, Except.map, Except.ok.injEq, Prod.mk.injEq] at hrun
      obtain ⟨-, hmemory, -⟩ := scripted_drain_spec 1 (lostShardMerge grouped) hc
      exact ⟨c, rfl, hmemory m (.io "lost") hrun.1 hrun.2⟩

end Plan

end Confluence
