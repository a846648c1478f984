import Confluence.Cursor.Drain
import Confluence.Cursor.Open
import Confluence.Proofs.Merge.Answers

/-!
# Cursors keep answers

A map that keeps the answers of sources keeps those of cursors over them, so cursors can be nested.
What a cursor drains to up to its first failure is the start of what the cursor over the images
drains to.
-/

namespace Confluence

/-! ### Windows -/

namespace Window

variable {τ υ : Type} {next : τ → Except Failure Bool × τ} {next' : υ → Except Failure Bool × υ}
  {f : τ → υ} {t t' : τ} {w w' : Window} {b : Bool}

lemma seek_map (hnext : ∀ {t t' b}, next t = (.ok b, t') → next' (f t) = (.ok b, f t'))
    {drop : Nat} (h : seek next drop w t = (.ok b, w', t')) :
    seek next' drop w (f t) = (.ok b, w', f t') := by
  induction drop generalizing w t with
  | zero =>
    rw [seek] at h
    split at h
    next t₁ ht =>
      cases h
      simp only [seek, hnext ht]
    next r t₁ hr ht =>
      cases h
      cases b with
      | true => exact absurd rfl hr
      | false => simp only [seek, hnext ht]
  | succ drop ih =>
    rw [seek] at h
    split at h
    next t₁ ht =>
      rw [seek, hnext ht]
      exact ih h
    next r t₁ hr ht =>
      cases h
      cases b with
      | true => exact absurd rfl hr
      | false => rw [seek, hnext ht]

lemma advance_map (hnext : ∀ {t t' b}, next t = (.ok b, t') → next' (f t) = (.ok b, f t'))
    (h : w.advance next t = (.ok b, w', t')) : w.advance next' (f t) = (.ok b, w', f t') := by
  rw [advance] at h ⊢
  split at h
  next hpast =>
    cases h
    rw [if_pos hpast]
  next hpast =>
    rw [if_neg hpast]
    exact seek_map hnext h

end Window

namespace Cursor

variable {σ τ : Type} [RowSource σ] [RowSource τ] {f : σ → τ} {c c' : Cursor σ}

/-- The same cursor over the images of its shards. -/
def map (f : σ → τ) (c : Cursor σ) : Cursor τ := { c with shards := c.shards.map (Shard.map f) }

/-! ### Advancing -/

lemma draw_map (hf : KeepsAnswers f) {t t' : Merger × List (Shard σ)} {b : Bool}
    (h : draw t = (.ok b, t')) :
    draw (t.1, t.2.map (Shard.map f)) = (.ok b, t'.1, t'.2.map (Shard.map f)) :=
  Merger.advance_map hf h

lemma drawInWindow_map (hf : KeepsAnswers f) {b : Bool} (h : c.drawInWindow = (.ok b, c')) :
    (c.map f).drawInWindow = (.ok b, c'.map f) := by
  rw [drawInWindow] at h
  split at h
  next hlimit =>
    rcases hadv : c.merger.advance c.shards with ⟨r, m, ss⟩
    simp only [draw, hadv] at h
    cases h
    simp only [drawInWindow, map, hlimit, draw, Merger.advance_map hf hadv]
  next p hlimit =>
    rcases hadv : p.window.advance draw (c.merger, c.shards) with ⟨r, w, m, ss⟩
    rw [hadv] at h
    cases h
    have hadv' : p.window.advance draw (c.merger, c.shards.map (Shard.map f)) =
        (.ok b, w, m, ss.map (Shard.map f)) :=
      Window.advance_map (f := fun t : Merger × List (Shard σ) => (t.1, t.2.map (Shard.map f)))
        (draw_map hf) hadv
    simp only [drawInWindow, map, hlimit, hadv']

lemma advance_map (hf : KeepsAnswers f) {b : Bool} (h : c.advance = (.ok b, c')) :
    (c.map f).advance = (.ok b, c'.map f) := by
  rw [advance] at h
  split at h
  next hphase =>
    cases h
    simp only [advance, map, hphase]
  · cases h
  all_goals
    next hphase =>
      have hphase' : (c.map f).phase = c.phase := rfl
      split at h
      next c₁ hdraw =>
        cases h
        simp only [advance, hphase', hphase, drawInWindow_map hf hdraw]
        rfl
      next c₁ hdraw =>
        cases h
        simp only [advance, hphase', hphase, drawInWindow_map hf hdraw]
        rfl
      · cases h

/-! ### Reading -/

lemma readCurrent_map (hf : KeepsAnswers f) {i : Nat} {t : SqlType} {v : Cell}
    (h : c.readCurrent i t = (.ok v, c')) : (c.map f).readCurrent i t = (.ok v, c'.map f) := by
  rw [readCurrent] at h
  split at h
  next k hk =>
    split at h
    next s hs =>
      rcases hv : s.value i t with ⟨r, s₁⟩
      rw [hv] at h
      cases h
      simp only [readCurrent, map, hk, List.getElem?_map, hs, Option.map_some,
        Shard.value_map hf hv, List.map_set]
    · cases h
  next r hr =>
    obtain ⟨hcopy, rfl⟩ := Prod.mk.inj h
    simp only [readCurrent, map, hr, hcopy]
  · cases h

lemma readColumn_map (hf : KeepsAnswers f) {i : Nat} {t : SqlType} {v : Cell}
    (h : c.readColumn i t = (.ok v, c')) : (c.map f).readColumn i t = (.ok v, c'.map f) := by
  rw [readColumn] at h ⊢
  split at h
  next k p hk hp =>
    have hk' : (c.map f).rowNumberColumn = some k := hk
    have hp' : (c.map f).pagination = some p := hp
    simp only [hk', hp']
    split at h
    next hi =>
      obtain ⟨hcoerce, rfl⟩ := Prod.mk.inj h
      rw [if_pos hi, hcoerce]
    next hi =>
      rw [if_neg hi]
      exact readCurrent_map hf h
  next hnone =>
    split
    next k p hk hp => exact absurd hp (hnone k p hk)
    · exact readCurrent_map hf h

lemma value_map (hf : KeepsAnswers f) {i : Nat} {t : SqlType} {v : Cell}
    (h : c.value i t = (.ok v, c')) : (c.map f).value i t = (.ok v, c'.map f) := by
  rw [value] at h
  split at h
  · cases h
  · cases h
  · cases h
  next hphase =>
    have hphase' : (c.map f).phase = .onRow := hphase
    split at h
    · cases h
    next hi =>
      have hi' : ¬ (i = 0 ∨ (c.map f).columnCount < i) := hi
      split at h
      next v c₁ hread =>
        cases h
        simp only [value, hphase', if_neg hi', readColumn_map hf hread]
        rfl
      next e c₁ hread =>
        split at h <;> cases h

/-- A map of sources that keeps answers makes one of cursors that does. -/
theorem keepsAnswers_map (hf : KeepsAnswers f) : KeepsAnswers (map f) where
  columnCount _ := rfl
  columnLabel h := h
  advance := advance_map hf
  value := value_map hf

lemma readFrom_map (hf : KeepsAnswers f) {first n : Nat} {r : Row}
    (h : c.readFrom first n = (.ok r, c')) : (c.map f).readFrom first n = (.ok r, c'.map f) := by
  induction n generalizing c first r with
  | zero =>
    cases h
    rfl
  | succ n ih =>
    rw [readFrom] at h
    split at h
    · cases h
    next v c₁ hv =>
      split at h
      · cases h
      next vs c₂ hrest =>
        cases h
        simp only [readFrom, value_map hf hv, ih hrest]

lemma currentRow_map (hf : KeepsAnswers f) {r : Row} (h : c.currentRow = (.ok r, c')) :
    (c.map f).currentRow = (.ok r, c'.map f) :=
  readFrom_map hf h

/-! ### Draining -/

/-- The rows up to the first failure are the first rows over the images. If there was no failure,
they are all of them. -/
theorem drain_map (hf : KeepsAnswers f) (c : Cursor σ) :
    c.drain.1.1 <+: (c.map f).drain.1.1 ∧
      (c.drain.1.2 = none → (c.map f).drain.1 = c.drain.1) := by
  -- the induction follows the run that may fail; where it ends with a failure nothing is claimed
  fun_induction drain c with
  | case1 c e c₁ hadv =>
    constructor
    · exact List.nil_prefix
    · intro hnone
      cases hnone
  | case2 c c₁ hadv =>
    constructor
    · exact List.nil_prefix
    · intro _
      rw [drain_def, advance_map hf hadv]
  | case3 c c₁ hadv e c₂ hread =>
    constructor
    · exact List.nil_prefix
    · intro hnone
      cases hnone
  | case4 c c₁ hadv row c₂ hread rows e last hrest ih =>
    have hstep : (c.map f).drain.1 = (row :: (c₂.map f).drain.1.1, (c₂.map f).drain.1.2) := by
      rw [drain_def, advance_map hf hadv]
      simp only [currentRow_map hf hread]
    rw [hrest] at ih
    constructor
    · rw [hstep]
      exact List.cons_prefix_cons.mpr ⟨rfl, ih.1⟩
    · intro hnone
      rw [hstep, ih.2 hnone]

end Cursor

/-! ### Opening -/

namespace LabelIndex

variable {σ τ : Type} [RowSource σ] [RowSource τ] {f : σ → τ} {s : σ}

lemma readLabels_map (hf : KeepsAnswers f) {first n : Nat} {labels : List String}
    (h : readLabels s first n = .ok labels) : readLabels (f s) first n = .ok labels := by
  induction n generalizing first labels with
  | zero => exact h
  | succ n ih =>
    rw [readLabels] at h
    split at h
    · cases h
    next l hl =>
      split at h
      · cases h
      next ls hls =>
        cases h
        simp only [readLabels, hf.columnLabel hl, ih hls]

lemma ofSource_map (hf : KeepsAnswers f) {x : LabelIndex} (h : ofSource s = .ok x) :
    ofSource (f s) = .ok x := by
  rw [ofSource] at h
  split at h
  next ls hls =>
    cases h
    simp only [ofSource, hf.columnCount, readLabels_map hf hls]
  · cases h

lemma checkLabels_map (hf : KeepsAnswers f) {shard first : Nat} {labels : List String}
    (h : checkLabels shard s first labels = .ok ()) :
    checkLabels shard (f s) first labels = .ok () := by
  induction labels generalizing first with
  | nil => rfl
  | cons expected rest ih =>
    rw [checkLabels] at h
    split at h
    · cases h
    next l hl =>
      split at h
      next hsame => simp only [checkLabels, hf.columnLabel hl, if_pos hsame, ih h]
      · cases h

lemma checkSource_map (hf : KeepsAnswers f) {x : LabelIndex} {shard : Nat}
    (h : x.checkSource shard s = .ok ()) : x.checkSource shard (f s) = .ok () := by
  rw [checkSource] at h ⊢
  rw [hf.columnCount]
  split at h
  · cases h
  next hcount =>
    rw [if_neg hcount]
    exact checkLabels_map hf h

end LabelIndex

namespace Cursor

variable {σ τ : Type} [RowSource σ] [RowSource τ] {f : σ → τ} {c c' : Cursor σ}
  {ss : List (Shard σ)} {sources : List σ} {config : Config} {shape : Shape}

omit [RowSource σ] [RowSource τ] in
lemma numberShards_map (f : σ → τ) (first : Nat) (sources : List σ) :
    numberShards first (sources.map f) = (numberShards first sources).map (Shard.map f) := by
  induction sources generalizing first with
  | nil => rfl
  | cons s sources ih =>
    simp only [List.map_cons, numberShards, ih]
    rfl

lemma checkShards_map (hf : KeepsAnswers f) {x : LabelIndex} (h : checkShards x ss = .ok ()) :
    checkShards x (ss.map (Shard.map f)) = .ok () := by
  induction ss with
  | nil => rfl
  | cons s ss ih =>
    rw [checkShards] at h
    split at h
    · cases h
    next hcheck =>
      have hcheck' : x.checkSource (s.map f).number (s.map f).source = .ok () :=
        LabelIndex.checkSource_map hf hcheck
      simp only [List.map_cons, checkShards, hcheck', ih h]

lemma agreedLabels_map (hf : KeepsAnswers f) {x : LabelIndex} (h : agreedLabels ss = .ok x) :
    agreedLabels (ss.map (Shard.map f)) = .ok x := by
  cases ss with
  | nil => cases h
  | cons s ss =>
    rw [agreedLabels] at h
    split at h
    · cases h
    next y hlabels =>
      split at h
      · cases h
      next hcheck =>
        cases h
        have hlabels' : LabelIndex.ofSource (s.map f).source = .ok x :=
          LabelIndex.ofSource_map hf hlabels
        simp only [List.map_cons, agreedLabels, hlabels', checkShards_map hf hcheck]

/-- A merge that opens, opens over the images of its sources, with the same plan. -/
theorem merge_map (hf : KeepsAnswers f) (h : Cursor.merge config shape sources = .ok c) :
    Cursor.merge config shape (sources.map f) = .ok (c.map f) := by
  rw [merge] at h
  split at h
  next c₁ hplan =>
    cases h
    rw [plan] at hplan
    split at hplan
    · cases hplan
    next x hlabels =>
      split at hplan
      · cases hplan
      next b hbind =>
        cases hplan
        simp only [merge, plan, numberShards_map, agreedLabels_map hf hlabels, hbind]
        rfl
  · cases h

end Cursor

end Confluence
