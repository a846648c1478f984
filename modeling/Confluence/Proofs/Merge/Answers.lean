import Confluence.Merge.Strategy
import Confluence.Proofs.Source.Answers

/-!
# Merges keep answers

A merge that does not fail did not see a failure of any of its shards. So over the image of its
shards under a map that keeps answers it takes the same step: whatever it folds ahead or holds back,
it answers only once all calls to its shards were answered.
-/

namespace Confluence

variable {σ τ : Type} [RowSource σ] [RowSource τ] {f : σ → τ} {ss ss' : List (Shard σ)}

/-! ### Concatenation -/

namespace ConcatMerge

lemma nextShard_map (hf : KeepsAnswers f) {position number : Nat} {a : Bool × Nat}
    (h : nextShard position number ss = (.ok a, ss')) :
    nextShard position number (ss.map (Shard.map f)) = (.ok a, ss'.map (Shard.map f)) := by
  induction ss generalizing position number ss' with
  | nil =>
    rw [nextShard] at h
    cases h
    exact nextShard.eq_1 position number
  | cons s ss ih =>
    cases position with
    | succ position =>
      rcases hn : nextShard position (number + 1) ss with ⟨r, ss₁⟩
      rw [nextShard, hn] at h
      cases h
      simp only [List.map_cons, nextShard, ih hn]
    | zero =>
      rw [nextShard] at h
      split at h
      · cases h
      next s₁ hs =>
        cases h
        simp only [List.map_cons, nextShard, Shard.advance_map hf hs]
      next s₁ hs =>
        rcases hn : nextShard 0 (number + 1) ss with ⟨r, ss₁⟩
        rw [hn] at h
        cases h
        simp only [List.map_cons, nextShard, Shard.advance_map hf hs, ih hn]

lemma advance_map (hf : KeepsAnswers f) {m m' : ConcatMerge} {b : Bool}
    (h : m.advance ss = (.ok b, m', ss')) :
    m.advance (ss.map (Shard.map f)) = (.ok b, m', ss'.map (Shard.map f)) := by
  rw [advance] at h
  split at h
  · cases h
  next k ss₁ hn =>
    cases h
    simp only [advance, nextShard_map hf hn]
  next k ss₁ hn =>
    cases h
    simp only [advance, nextShard_map hf hn]

end ConcatMerge

/-! ### Ordered merge -/

namespace OrderedMerge

variable {m m' : OrderedMerge}

lemma pushHead_map (hf : KeepsAnswers f) {s s' : Shard σ}
    (h : m.pushHead s = (.ok (), m', s')) :
    m.pushHead (s.map f) = (.ok (), m', s'.map f) := by
  rw [pushHead] at h
  split at h
  · cases h
  next s₁ hadv =>
    cases h
    simp only [pushHead, Shard.advance_map hf hadv]
  next s₁ hadv =>
    split at h
    · cases h
    next key s₂ hread =>
      split at h
      · cases h
      next guard haccept =>
        cases h
        simp only [pushHead, Shard.advance_map hf hadv, Shard.readColumns_map hf hread, haccept]
        rfl

lemma pushHeads_map (hf : KeepsAnswers f) (h : m.pushHeads ss = (.ok (), m', ss')) :
    m.pushHeads (ss.map (Shard.map f)) = (.ok (), m', ss'.map (Shard.map f)) := by
  induction ss generalizing m ss' with
  | nil =>
    cases h
    rfl
  | cons s ss ih =>
    rw [pushHeads] at h
    split at h
    · cases h
    next m₁ s₁ hpush =>
      rcases hrest : m₁.pushHeads ss with ⟨r, m₂, ss₁⟩
      rw [hrest] at h
      cases h
      simp only [List.map_cons, pushHeads, pushHead_map hf hpush, ih hrest]

lemma pushHeadAt_map (hf : KeepsAnswers f) {k : Nat} (h : m.pushHeadAt k ss = (.ok (), m', ss')) :
    m.pushHeadAt k (ss.map (Shard.map f)) = (.ok (), m', ss'.map (Shard.map f)) := by
  rw [pushHeadAt] at h
  split at h
  next hk =>
    cases h
    simp only [pushHeadAt, List.getElem?_map, hk, Option.map_none]
  next s hk =>
    rcases hpush : m.pushHead s with ⟨r, m₁, s₁⟩
    rw [hpush] at h
    cases h
    simp only [pushHeadAt, List.getElem?_map, hk, Option.map_some, pushHead_map hf hpush,
      List.map_set]

lemma refill_map (hf : KeepsAnswers f) (h : m.refill ss = (.ok (), m', ss')) :
    m.refill (ss.map (Shard.map f)) = (.ok (), m', ss'.map (Shard.map f)) := by
  rw [refill] at h ⊢
  split at h
  next hstarted =>
    rw [if_pos hstarted]
    split at h
    · exact pushHeadAt_map hf h
    · cases h
      rfl
  next hstarted =>
    rw [if_neg hstarted]
    exact pushHeads_map hf h

lemma advance_map (hf : KeepsAnswers f) {b : Bool} (h : m.advance ss = (.ok b, m', ss')) :
    m.advance (ss.map (Shard.map f)) = (.ok b, m', ss'.map (Shard.map f)) := by
  rw [advance] at h
  split at h
  · cases h
  next m₁ ss₁ hrefill =>
    split at h
    next hheads =>
      cases h
      simp only [advance, refill_map hf hrefill, hheads]
    next x xs hheads =>
      cases h
      simp only [advance, refill_map hf hrefill, hheads]

end OrderedMerge

/-! ### Grouped merge of sorted shards -/

namespace GroupedStream

lemma nextRow_map (hf : KeepsAnswers f) {n : Nat} {m m' : OrderedMerge} {r : Option Row}
    (h : nextRow n m ss = (.ok r, m', ss')) :
    nextRow n m (ss.map (Shard.map f)) = (.ok r, m', ss'.map (Shard.map f)) := by
  rw [nextRow] at h
  split at h
  · cases h
  next m₁ ss₁ hadv =>
    cases h
    simp only [nextRow, OrderedMerge.advance_map hf hadv]
  next m₁ ss₁ hadv =>
    split at h
    next hcurrent =>
      cases h
      simp only [nextRow, OrderedMerge.advance_map hf hadv, hcurrent]
    next k hcurrent =>
      split at h
      next hk =>
        cases h
        simp only [nextRow, OrderedMerge.advance_map hf hadv, hcurrent, List.getElem?_map, hk,
          Option.map_none]
      next s hk =>
        split at h
        · cases h
        next row s₁ hread =>
          cases h
          simp only [nextRow, OrderedMerge.advance_map hf hadv, hcurrent, List.getElem?_map, hk,
            Option.map_some, Shard.readRow_map hf hread, List.map_set]

/-- A group is folded to its end only if every row of it and what ends it could be drawn. -/
lemma gather_map (hf : KeepsAnswers f) {g : Grouping} {key : GroupKey} {group : Group}
    {m m' : OrderedMerge} {a : Group × Option Row}
    (h : gather g key group m ss = (.ok a, m', ss')) :
    gather g key group m (ss.map (Shard.map f)) = (.ok a, m', ss'.map (Shard.map f)) := by
  -- a failure to draw or to feed is no answer, which leaves the cases 2, 4 and 5
  fun_induction gather g key group m ss with
  | case1 group m ss e m₁ ss₁ hnext => cases h
  | case2 group m ss m₁ ss₁ hnext =>
    cases h
    rw [gather_def, nextRow_map hf hnext]
  | case3 group m ss row m₁ ss₁ hnext hsame e hfeed => cases h
  | case4 group m ss row m₁ ss₁ hnext hsame group' hfeed ih =>
    rw [gather_def, nextRow_map hf hnext]
    simp only [if_pos hsame, hfeed]
    exact ih h
  | case5 group m ss row m₁ ss₁ hnext hsame =>
    cases h
    rw [gather_def, nextRow_map hf hnext]
    exact if_neg hsame

variable {m m' : GroupedStream}

lemma firstRow_map (hf : KeepsAnswers f) {r : Option Row}
    (h : m.firstRow ss = (.ok r, m', ss')) :
    m.firstRow (ss.map (Shard.map f)) = (.ok r, m', ss'.map (Shard.map f)) := by
  rw [firstRow] at h ⊢
  split at h
  next hstarted =>
    cases h
    rw [if_pos hstarted]
  next hstarted =>
    rw [if_neg hstarted]
    rcases hnext : nextRow m.grouping.columnCount m.inner ss with ⟨r, inner, ss₁⟩
    rw [hnext] at h
    cases h
    rw [nextRow_map hf hnext]

lemma emit_map (hf : KeepsAnswers f) {row : Row} {b : Bool}
    (h : m.emit row ss = (.ok b, m', ss')) :
    m.emit row (ss.map (Shard.map f)) = (.ok b, m', ss'.map (Shard.map f)) := by
  rw [emit] at h
  split at h
  · cases h
  next group hstart =>
    split at h
    · cases h
    next group' held inner ss₁ hgather =>
      split at h
      · cases h
      next out hfinish =>
        cases h
        simp only [emit, hstart, gather_map hf hgather, hfinish]

lemma advance_map (hf : KeepsAnswers f) {b : Bool} (h : m.advance ss = (.ok b, m', ss')) :
    m.advance (ss.map (Shard.map f)) = (.ok b, m', ss'.map (Shard.map f)) := by
  rw [advance] at h
  split at h
  · cases h
  next m₁ ss₁ hfirst =>
    cases h
    simp only [advance, firstRow_map hf hfirst]
  next row m₁ ss₁ hfirst =>
    simp only [advance, firstRow_map hf hfirst]
    exact emit_map hf h

end GroupedStream

/-! ### Grouped merge in memory -/

namespace GroupedMemory

lemma drainShard_map (hf : KeepsAnswers f) {c : Config} {g : Grouping} {t t' : GroupTable}
    {s s' : Shard σ} (h : drainShard c g t s = (.ok t', s')) :
    drainShard c g t (s.map f) = (.ok t', s'.map f) := by
  fun_induction drainShard c g t s with
  | case1 t s e s₁ hadv => cases h
  | case2 t s s₁ hadv =>
    cases h
    rw [drainShard_def, Shard.advance_map hf hadv]
  | case3 t s s₁ hadv hfull => cases h
  | case4 t s s₁ hadv hfull e s₂ hread => cases h
  | case5 t s s₁ hadv hfull row s₂ hread e hadd => cases h
  | case6 t s s₁ hadv hfull row s₂ hread t₁ hadd ih =>
    rw [drainShard_def, Shard.advance_map hf hadv]
    simp only [if_neg hfull, Shard.readRow_map hf hread, hadd]
    exact ih h

lemma drainShards_map (hf : KeepsAnswers f) {c : Config} {g : Grouping} {t t' : GroupTable}
    (h : drainShards c g t ss = (.ok t', ss')) :
    drainShards c g t (ss.map (Shard.map f)) = (.ok t', ss'.map (Shard.map f)) := by
  induction ss generalizing t ss' with
  | nil =>
    cases h
    rfl
  | cons s ss ih =>
    rw [drainShards] at h
    split at h
    · cases h
    next t₁ s₁ hdrain =>
      rcases hrest : drainShards c g t₁ ss with ⟨r, ss₁⟩
      rw [hrest] at h
      cases h
      simp only [List.map_cons, drainShards, drainShard_map hf hdrain, ih hrest]

variable {m m' : GroupedMemory}

lemma drain_map (hf : KeepsAnswers f) {rows : List Row} (h : m.drain ss = (.ok rows, ss')) :
    m.drain (ss.map (Shard.map f)) = (.ok rows, ss'.map (Shard.map f)) := by
  rw [drain] at h
  split at h
  · cases h
  next t ss₁ hdrain =>
    obtain ⟨hsettle, rfl⟩ := Prod.mk.inj h
    simp only [drain, drainShards_map hf hdrain, hsettle]

lemma advance_map (hf : KeepsAnswers f) {b : Bool} (h : m.advance ss = (.ok b, m', ss')) :
    m.advance (ss.map (Shard.map f)) = (.ok b, m', ss'.map (Shard.map f)) := by
  rw [advance] at h
  split at h
  next rows hrows =>
    cases h
    simp only [advance, hrows]
    rfl
  next hrows =>
    split at h
    · cases h
    next rows ss₁ hdrain =>
      cases h
      simp only [advance, hrows, drain_map hf hdrain]
      rfl

end GroupedMemory

/-! ### All strategies -/

/-- A step of a merge that does not fail is a step over the images of its shards. -/
lemma Merger.advance_map (hf : KeepsAnswers f) {m m' : Merger} {b : Bool}
    (h : m.advance ss = (.ok b, m', ss')) :
    m.advance (ss.map (Shard.map f)) = (.ok b, m', ss'.map (Shard.map f)) := by
  cases m with
  | concat m =>
    rcases ha : m.advance ss with ⟨r, m₁, ss₁⟩
    simp only [advance, ha] at h
    cases h
    simp only [advance, ConcatMerge.advance_map hf ha]
  | ordered m =>
    rcases ha : m.advance ss with ⟨r, m₁, ss₁⟩
    simp only [advance, ha] at h
    cases h
    simp only [advance, OrderedMerge.advance_map hf ha]
  | groupedStream m =>
    rcases ha : m.advance ss with ⟨r, m₁, ss₁⟩
    simp only [advance, ha] at h
    cases h
    simp only [advance, GroupedStream.advance_map hf ha]
  | groupedMemory m =>
    rcases ha : m.advance ss with ⟨r, m₁, ss₁⟩
    simp only [advance, ha] at h
    cases h
    simp only [advance, GroupedMemory.advance_map hf ha]

end Confluence
