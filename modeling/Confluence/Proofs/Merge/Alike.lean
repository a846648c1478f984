import Confluence.Merge.Strategy
import Confluence.Proofs.Pointwise
import Confluence.Proofs.Source.Alike

/-!
# Merges over sources that cannot be told apart

A merge takes the same steps over shards that are alike. In a step of an ungrouped merge each shard
is advanced at most once, so shards that are alike for one more advance remain alike. A grouped
merge advances its shards as often as it likes, and needs shards that are alike for good.
-/

namespace Confluence

variable {σ τ : Type} [RowSource σ] [RowSource τ] {R : Nat → σ → τ → Prop} {n : Nat}
  {ss : List (Shard σ)} {ts : List (Shard τ)}

lemma shardsLike_mono (hR : AnswerAlike R) (h : List.Forall₂ (Shard.Like (R (n + 1))) ss ts) :
    List.Forall₂ (Shard.Like (R n)) ss ts := h.imp fun _ _ hs => hs.imp hR.mono

/-! ### Concatenation -/

namespace ConcatMerge

lemma nextShard_alike (hR : AnswerAlike R) (h : List.Forall₂ (Shard.Like (R (n + 1))) ss ts)
    (p k : Nat) :
    Agree (List.Forall₂ (Shard.Like (R n))) (nextShard p k ss) (nextShard p k ts) := by
  induction h generalizing p k with
  | nil => exact ⟨rfl, .nil⟩
  | @cons s t ss ts hs hss ih =>
    cases p with
    | succ p =>
      obtain ⟨r, ss', ts', hx, hy, h'⟩ := (ih p (k + 1)).exists_eq
      rw [nextShard, nextShard, hx, hy]
      exact ⟨rfl, .cons (hs.imp hR.mono) h'⟩
    | zero =>
      obtain ⟨r, s', t', hx, hy, hs'⟩ := (Shard.advance_alike hR hs).exists_eq
      rw [nextShard, nextShard, hx, hy]
      rcases r with e | _ | _
      · exact ⟨rfl, .cons hs' (shardsLike_mono hR hss)⟩
      · obtain ⟨r, ss', ts', hx, hy, h'⟩ := (ih 0 (k + 1)).exists_eq
        simp only [hx, hy]
        exact ⟨rfl, .cons hs' h'⟩
      · exact ⟨rfl, .cons hs' (shardsLike_mono hR hss)⟩

lemma advance_alike (hR : AnswerAlike R) (h : List.Forall₂ (Shard.Like (R (n + 1))) ss ts)
    (m : ConcatMerge) :
    Agree (Agree (List.Forall₂ (Shard.Like (R n)))) (m.advance ss) (m.advance ts) := by
  obtain ⟨r, ss', ts', hx, hy, h'⟩ := (nextShard_alike hR h m.position 0).exists_eq
  rw [advance, advance, hx, hy]
  rcases r with e | ⟨_ | _, k⟩ <;> exact ⟨rfl, rfl, h'⟩

end ConcatMerge

/-! ### Ordered merge -/

namespace OrderedMerge

variable {s : Shard σ} {t : Shard τ}

lemma pushHead_alike (hR : AnswerAlike R) (h : s.Like (R (n + 1)) t) (m : OrderedMerge) :
    Agree (Agree (Shard.Like (R n))) (m.pushHead s) (m.pushHead t) := by
  obtain ⟨r, s₁, t₁, hx, hy, h₁⟩ := (Shard.advance_alike hR h).exists_eq
  rw [pushHead, pushHead, hx, hy]
  rcases r with e | _ | _
  · exact ⟨rfl, rfl, h₁⟩
  · exact ⟨rfl, rfl, h₁⟩
  · obtain ⟨r, s₂, t₂, hx, hy, h₂⟩ := (Shard.readColumns_alike hR h₁ m.order.columns).exists_eq
    simp only [hx, hy]
    cases r with
    | error e => exact ⟨rfl, rfl, h₂⟩
    | ok key =>
      simp only [h₂.number_eq]
      split <;> exact ⟨rfl, rfl, h₂⟩

lemma pushHeads_alike (hR : AnswerAlike R) (h : List.Forall₂ (Shard.Like (R (n + 1))) ss ts)
    (m : OrderedMerge) :
    Agree (Agree (List.Forall₂ (Shard.Like (R n)))) (m.pushHeads ss) (m.pushHeads ts) := by
  induction h generalizing m with
  | nil => exact ⟨rfl, rfl, .nil⟩
  | @cons s t ss ts hs hss ih =>
    obtain ⟨r, m₁, s₁, t₁, hx, hy, h₁⟩ := (pushHead_alike hR hs m).exists_eq_beside
    rw [pushHeads, pushHeads, hx, hy]
    cases r with
    | error e => exact ⟨rfl, rfl, .cons h₁ (shardsLike_mono hR hss)⟩
    | ok u =>
      obtain ⟨r, m₂, ss₂, ts₂, hx, hy, h₂⟩ := (ih m₁).exists_eq_beside
      simp only [hx, hy]
      exact ⟨rfl, rfl, .cons h₁ h₂⟩

lemma pushHeadAt_alike (hR : AnswerAlike R) (h : List.Forall₂ (Shard.Like (R (n + 1))) ss ts)
    (m : OrderedMerge) (k : Nat) :
    Agree (Agree (List.Forall₂ (Shard.Like (R n)))) (m.pushHeadAt k ss) (m.pushHeadAt k ts) := by
  rw [pushHeadAt, pushHeadAt]
  rcases forall₂_getElem? h k with ⟨hs, ht⟩ | ⟨s, t, hs, ht, hst⟩
  · rw [hs, ht]
    exact ⟨rfl, rfl, shardsLike_mono hR h⟩
  · rw [hs, ht]
    obtain ⟨r, m₁, s₁, t₁, hx, hy, h₁⟩ := (pushHead_alike hR hst m).exists_eq_beside
    simp only [hx, hy]
    exact ⟨rfl, rfl, forall₂_set_set (shardsLike_mono hR h) k h₁⟩

lemma refill_alike (hR : AnswerAlike R) (h : List.Forall₂ (Shard.Like (R (n + 1))) ss ts)
    (m : OrderedMerge) :
    Agree (Agree (List.Forall₂ (Shard.Like (R n)))) (m.refill ss) (m.refill ts) := by
  rw [refill, refill]
  split
  · split
    · exact pushHeadAt_alike hR h _ _
    · exact ⟨rfl, rfl, shardsLike_mono hR h⟩
  · exact pushHeads_alike hR h _

lemma advance_alike (hR : AnswerAlike R) (h : List.Forall₂ (Shard.Like (R (n + 1))) ss ts)
    (m : OrderedMerge) :
    Agree (Agree (List.Forall₂ (Shard.Like (R n)))) (m.advance ss) (m.advance ts) := by
  obtain ⟨r, m₁, ss₁, ts₁, hx, hy, h₁⟩ := (refill_alike hR h m).exists_eq_beside
  rw [advance, advance, hx, hy]
  cases r with
  | error e => exact ⟨rfl, rfl, h₁⟩
  | ok u =>
    simp only
    split <;> exact ⟨rfl, rfl, h₁⟩

end OrderedMerge

/-! ### Grouped merge of sorted shards -/

variable {E : σ → τ → Prop}

namespace GroupedStream

lemma nextRow_alike (hE : AnswerAlike fun _ => E) (h : List.Forall₂ (Shard.Like E) ss ts)
    (columnCount : Nat) (m : OrderedMerge) :
    Agree (Agree (List.Forall₂ (Shard.Like E))) (nextRow columnCount m ss)
      (nextRow columnCount m ts) := by
  obtain ⟨r, m₁, ss₁, ts₁, hx, hy, h₁⟩ := (OrderedMerge.advance_alike (n := 0) hE h m).exists_eq_beside
  rw [nextRow, nextRow, hx, hy]
  rcases r with e | _ | _
  · exact ⟨rfl, rfl, h₁⟩
  · exact ⟨rfl, rfl, h₁⟩
  · simp only
    cases hk : m₁.current with
    | none => exact ⟨rfl, rfl, h₁⟩
    | some k =>
      simp only
      rcases forall₂_getElem? h₁ k with ⟨hs, ht⟩ | ⟨s, t, hs, ht, hst⟩
      · simp only [hs, ht]
        exact ⟨rfl, rfl, h₁⟩
      · obtain ⟨r, s', t', hx, hy, h₂⟩ := (Shard.readColumns_alike (n := 0) hE hst
          (List.range columnCount)).exists_eq
        simp only [hs, ht, Shard.readRow, hx, hy]
        cases r with
        | error e => exact ⟨rfl, rfl, forall₂_set_set h₁ k h₂⟩
        | ok row => exact ⟨rfl, rfl, forall₂_set_set h₁ k h₂⟩

/-- The step that follows one that is known. -/
lemma exists_nextRow_eq (hE : AnswerAlike fun _ => E) (h : List.Forall₂ (Shard.Like E) ss ts)
    {columnCount : Nat} {m m₁ : OrderedMerge} {r : Except Failure (Option Row)}
    {ss₁ : List (Shard σ)} (hx : nextRow columnCount m ss = (r, m₁, ss₁)) :
    ∃ ts₁, nextRow columnCount m ts = (r, m₁, ts₁) ∧ List.Forall₂ (Shard.Like E) ss₁ ts₁ := by
  obtain ⟨r', m', ss', ts', hx', hy, h'⟩ := (nextRow_alike hE h columnCount m).exists_eq_beside
  cases hx.symm.trans hx'
  exact ⟨ts', hy, h'⟩

lemma gather_alike (hE : AnswerAlike fun _ => E) (h : List.Forall₂ (Shard.Like E) ss ts)
    (g : Grouping) (key : GroupKey) (group : Group) (m : OrderedMerge) :
    Agree (Agree (List.Forall₂ (Shard.Like E))) (gather g key group m ss)
      (gather g key group m ts) := by
  fun_induction gather g key group m ss generalizing ts with
  | case1 group m ss e m₁ ss₁ hnext =>
    obtain ⟨ts₁, hy, h₁⟩ := exists_nextRow_eq hE h hnext
    rw [gather_def, hy]
    exact ⟨rfl, rfl, h₁⟩
  | case2 group m ss m₁ ss₁ hnext =>
    obtain ⟨ts₁, hy, h₁⟩ := exists_nextRow_eq hE h hnext
    rw [gather_def, hy]
    exact ⟨rfl, rfl, h₁⟩
  | case3 group m ss row m₁ ss₁ hnext hsame e hfeed =>
    obtain ⟨ts₁, hy, h₁⟩ := exists_nextRow_eq hE h hnext
    rw [gather_def, hy]
    simp only [if_pos hsame, hfeed]
    exact ⟨rfl, rfl, h₁⟩
  | case4 group m ss row m₁ ss₁ hnext hsame group' hfeed ih =>
    obtain ⟨ts₁, hy, h₁⟩ := exists_nextRow_eq hE h hnext
    rw [gather_def g key group m ts, hy]
    simp only [if_pos hsame, hfeed]
    exact ih h₁
  | case5 group m ss row m₁ ss₁ hnext hsame =>
    obtain ⟨ts₁, hy, h₁⟩ := exists_nextRow_eq hE h hnext
    rw [gather_def, hy]
    simp only [if_neg hsame]
    exact ⟨rfl, rfl, h₁⟩

lemma firstRow_alike (hE : AnswerAlike fun _ => E) (h : List.Forall₂ (Shard.Like E) ss ts)
    (m : GroupedStream) :
    Agree (Agree (List.Forall₂ (Shard.Like E))) (m.firstRow ss) (m.firstRow ts) := by
  rw [firstRow, firstRow]
  split
  · exact ⟨rfl, rfl, h⟩
  · obtain ⟨r, m₁, ss₁, ts₁, hx, hy, h₁⟩ := (nextRow_alike hE h m.grouping.columnCount m.inner).exists_eq_beside
    rw [hx, hy]
    exact ⟨rfl, rfl, h₁⟩

lemma emit_alike (hE : AnswerAlike fun _ => E) (h : List.Forall₂ (Shard.Like E) ss ts)
    (m : GroupedStream) (row : Row) :
    Agree (Agree (List.Forall₂ (Shard.Like E))) (m.emit row ss) (m.emit row ts) := by
  rw [emit, emit]
  split
  · exact ⟨rfl, rfl, h⟩
  next group hstart =>
    obtain ⟨r, m₁, ss₁, ts₁, hx, hy, h₁⟩ :=
      (gather_alike hE h m.grouping (m.grouping.keyOf row) group m.inner).exists_eq_beside
    rw [hx, hy]
    rcases r with e | ⟨group', held⟩
    · exact ⟨rfl, rfl, h₁⟩
    · simp only
      split <;> exact ⟨rfl, rfl, h₁⟩

lemma advance_alike (hE : AnswerAlike fun _ => E) (h : List.Forall₂ (Shard.Like E) ss ts)
    (m : GroupedStream) :
    Agree (Agree (List.Forall₂ (Shard.Like E))) (m.advance ss) (m.advance ts) := by
  obtain ⟨r, m₁, ss₁, ts₁, hx, hy, h₁⟩ := (firstRow_alike hE h m).exists_eq_beside
  rw [advance, advance, hx, hy]
  rcases r with e | _ | row
  · exact ⟨rfl, rfl, h₁⟩
  · exact ⟨rfl, rfl, h₁⟩
  · exact emit_alike hE h₁ m₁ row

end GroupedStream

/-! ### Grouped merge in memory -/

namespace GroupedMemory

lemma drainShard_alike (hE : AnswerAlike fun _ => E) {s : Shard σ} {t : Shard τ} (h : s.Like E t)
    (c : Config) (g : Grouping) (table : GroupTable) :
    Agree (Shard.Like E) (drainShard c g table s) (drainShard c g table t) := by
  -- each step over `s` that is known has its step over `t`
  have hadvance {s s₁ : Shard σ} {t : Shard τ} {r : Except Failure Bool} (h : s.Like E t)
      (hx : s.advance = (r, s₁)) : ∃ t₁, t.advance = (r, t₁) ∧ s₁.Like E t₁ := by
    obtain ⟨r', s', t', hx', hy, h'⟩ := (Shard.advance_alike (n := 0) hE h).exists_eq
    cases hx.symm.trans hx'
    exact ⟨t', hy, h'⟩
  have hread {s s₁ : Shard σ} {t : Shard τ} {r : Except Failure Row} (h : s.Like E t)
      (hx : s.readRow g.columnCount = (r, s₁)) :
      ∃ t₁, t.readRow g.columnCount = (r, t₁) ∧ s₁.Like E t₁ := by
    obtain ⟨r', s', t', hx', hy, h'⟩ := (Shard.readColumns_alike (n := 0) hE h _).exists_eq
    cases hx.symm.trans hx'
    exact ⟨t', hy, h'⟩
  fun_induction drainShard c g table s generalizing t with
  | case1 table s e s₁ hadv =>
    obtain ⟨t₁, hy, h₁⟩ := hadvance h hadv
    rw [drainShard_def, hy]
    exact ⟨rfl, h₁⟩
  | case2 table s s₁ hadv =>
    obtain ⟨t₁, hy, h₁⟩ := hadvance h hadv
    rw [drainShard_def, hy]
    exact ⟨rfl, h₁⟩
  | case3 table s s₁ hadv hfull =>
    obtain ⟨t₁, hy, h₁⟩ := hadvance h hadv
    rw [drainShard_def, hy]
    simp only [if_pos hfull]
    exact ⟨rfl, h₁⟩
  | case4 table s s₁ hadv hfull e s₂ hrow =>
    obtain ⟨t₁, hy, h₁⟩ := hadvance h hadv
    obtain ⟨t₂, hy', h₂⟩ := hread h₁ hrow
    rw [drainShard_def, hy]
    simp only [if_neg hfull, hy']
    exact ⟨rfl, h₂⟩
  | case5 table s s₁ hadv hfull row s₂ hrow e hadd =>
    obtain ⟨t₁, hy, h₁⟩ := hadvance h hadv
    obtain ⟨t₂, hy', h₂⟩ := hread h₁ hrow
    rw [drainShard_def, hy]
    simp only [if_neg hfull, hy', hadd]
    exact ⟨rfl, h₂⟩
  | case6 table s s₁ hadv hfull row s₂ hrow table' hadd ih =>
    obtain ⟨t₁, hy, h₁⟩ := hadvance h hadv
    obtain ⟨t₂, hy', h₂⟩ := hread h₁ hrow
    rw [drainShard_def c g table t, hy]
    simp only [if_neg hfull, hy', hadd]
    exact ih h₂

lemma drainShards_alike (hE : AnswerAlike fun _ => E) (h : List.Forall₂ (Shard.Like E) ss ts)
    (c : Config) (g : Grouping) (table : GroupTable) :
    Agree (List.Forall₂ (Shard.Like E)) (drainShards c g table ss) (drainShards c g table ts) := by
  induction h generalizing table with
  | nil => exact ⟨rfl, .nil⟩
  | @cons s t ss ts hs hss ih =>
    obtain ⟨r, s₁, t₁, hx, hy, h₁⟩ := (drainShard_alike hE hs c g table).exists_eq
    rw [drainShards, drainShards, hx, hy]
    cases r with
    | error e => exact ⟨rfl, .cons h₁ hss⟩
    | ok table' =>
      obtain ⟨r, ss₁, ts₁, hx, hy, h₂⟩ := (ih table').exists_eq
      simp only [hx, hy]
      exact ⟨rfl, .cons h₁ h₂⟩

lemma drain_alike (hE : AnswerAlike fun _ => E) (h : List.Forall₂ (Shard.Like E) ss ts)
    (m : GroupedMemory) : Agree (List.Forall₂ (Shard.Like E)) (m.drain ss) (m.drain ts) := by
  obtain ⟨r, ss₁, ts₁, hx, hy, h₁⟩ := (drainShards_alike hE h m.config m.grouping {}).exists_eq
  rw [drain, drain, hx, hy]
  cases r with
  | error e => exact ⟨rfl, h₁⟩
  | ok table => exact ⟨rfl, h₁⟩

lemma advance_alike (hE : AnswerAlike fun _ => E) (h : List.Forall₂ (Shard.Like E) ss ts)
    (m : GroupedMemory) :
    Agree (Agree (List.Forall₂ (Shard.Like E))) (m.advance ss) (m.advance ts) := by
  rw [advance, advance]
  split
  · exact ⟨rfl, rfl, h⟩
  · obtain ⟨r, ss₁, ts₁, hx, hy, h₁⟩ := (drain_alike hE h m).exists_eq
    rw [hx, hy]
    cases r with
    | error e => exact ⟨rfl, rfl, h₁⟩
    | ok rows => exact ⟨rfl, rfl, h₁⟩

end GroupedMemory

/-! ### All strategies -/

/-- Pairs whose first parts are related in one way, and the second ones in another. -/
structure Paired {μ α β : Type} (M : μ → μ → Prop) (R : α → β → Prop) (x : μ × α) (y : μ × β) :
    Prop where
  fst : M x.1 y.1
  snd : R x.2 y.2

namespace Merger

lemma advance_concat_alike (hR : AnswerAlike R)
    (h : List.Forall₂ (Shard.Like (R (n + 1))) ss ts) (m : ConcatMerge) :
    Agree (Agree (List.Forall₂ (Shard.Like (R n)))) ((Merger.concat m).advance ss)
      ((Merger.concat m).advance ts) :=
  (ConcatMerge.advance_alike hR h m).map (fun a => (Merger.concat a.1, a.2))
    (fun a => (Merger.concat a.1, a.2)) fun h => ⟨congrArg _ h.fst_eq, h.snd⟩

lemma advance_ordered_alike (hR : AnswerAlike R)
    (h : List.Forall₂ (Shard.Like (R (n + 1))) ss ts) (m : OrderedMerge) :
    Agree (Agree (List.Forall₂ (Shard.Like (R n)))) ((Merger.ordered m).advance ss)
      ((Merger.ordered m).advance ts) :=
  (OrderedMerge.advance_alike hR h m).map (fun a => (Merger.ordered a.1, a.2))
    (fun a => (Merger.ordered a.1, a.2)) fun h => ⟨congrArg _ h.fst_eq, h.snd⟩

/-- A merge of any strategy takes the same step over shards that are alike for good. -/
theorem advance_alike (hE : AnswerAlike fun _ => E) (h : List.Forall₂ (Shard.Like E) ss ts)
    (m : Merger) : Agree (Agree (List.Forall₂ (Shard.Like E))) (m.advance ss) (m.advance ts) := by
  cases m with
  | concat m => exact advance_concat_alike (n := 0) hE h m
  | ordered m => exact advance_ordered_alike (n := 0) hE h m
  | groupedStream m =>
    exact (GroupedStream.advance_alike hE h m).map (fun a => (Merger.groupedStream a.1, a.2))
      (fun a => (Merger.groupedStream a.1, a.2)) fun h => ⟨congrArg _ h.fst_eq, h.snd⟩
  | groupedMemory m =>
    exact (GroupedMemory.advance_alike hE h m).map (fun a => (Merger.groupedMemory a.1, a.2))
      (fun a => (Merger.groupedMemory a.1, a.2)) fun h => ⟨congrArg _ h.fst_eq, h.snd⟩

/-- Related merges are of one strategy, and on the same row. -/
class SameRow (M : Merger → Merger → Prop) : Prop where
  current_eq {m m' : Merger} : M m m' → m.current = m'.current
  strategy_eq {m m' : Merger} : M m m' → m.strategy = m'.strategy

instance : SameRow Eq where
  current_eq h := congrArg current h
  strategy_eq h := congrArg strategy h

/-- Related merges take the same step over shards that are alike, and stay related. -/
def StepAlike (M : Merger → Merger → Prop) (E : σ → τ → Prop) : Prop :=
  ∀ {m m' : Merger} {ss : List (Shard σ)} {ts : List (Shard τ)}, M m m' →
    List.Forall₂ (Shard.Like E) ss ts →
      Agree (Paired M (List.Forall₂ (Shard.Like E))) (m.advance ss) (m'.advance ts)

lemma stepAlike_eq (hE : AnswerAlike fun _ => E) : StepAlike Eq E := by
  rintro m _ ss ts rfl hss
  exact (advance_alike hE hss m).imp fun h => ⟨h.fst_eq, h.snd⟩

end Merger

end Confluence
