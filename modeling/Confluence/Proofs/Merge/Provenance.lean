import Confluence.Merge.Strategy
import Confluence.Proofs.Source.Provenance

/-!
# Where failures of merges come from

A merge calls its shards one after the other, and the first of them that fails ends the step. So a
step of a merge that comes to an answer raised nothing, and a step that fails raised nothing, or
fails with what is seen of the one failure that a leaf raised.
-/

namespace Confluence

namespace Ledger

variable {τ : Type} {L : Ledger τ} {A : Set Stage} {e : Failure} {t t' : τ} {ts ts' : List τ}

lemma Fails.free (h : L.Fails A t e t') : L.Fails .univ t e t' := h.mono A.subset_univ

lemma Fails.head (h : L.Fails A t e t') (ts : List τ) :
    L.list.Fails .univ (t :: ts) e (t' :: ts) :=
  h.free.imp fun hraised => list_head hraised ts

lemma Fails.tail (ht : L.Raised none t t') (h : L.list.Fails A ts e ts') :
    L.list.Fails A (t :: ts) e (t' :: ts') :=
  h.imp (list_tail ht)

lemma Fails.set {k : Nat} (ht : ts[k]? = some t) (h : L.Fails A t e t') :
    L.list.Fails A ts e (ts.set k t') :=
  h.imp (list_set ht)

end Ledger

namespace Ledger

variable {τ μ ν α : Type} {L : Ledger τ} {t t' : τ} {x : Except Failure α × μ × τ}

/-- What a call tells that leaves something else beside the state, whatever calls it makes. -/
def TellsBeside (L : Ledger τ) (t : τ) (x : Except Failure α × μ × τ) : Prop :=
  Leaves (fun _ u => L.Raised none t u.2) (fun e u => L.Fails .univ t e u.2) x

lemma TellsBeside.behind (h : L.Raised none t t') (h' : L.TellsBeside t' x) : L.TellsBeside t x :=
  h'.imp (fun _ _ hraised => L.trans h hraised) fun _ _ hfails => hfails.behind h

/-- What is left beside the state makes no difference. -/
lemma TellsBeside.beside (h : L.TellsBeside t x) (f : μ → ν) :
    L.TellsBeside t (x.1, f x.2.1, x.2.2) :=
  Leaves.map (f := fun u : μ × τ => (f u.1, u.2)) h

end Ledger

namespace Provenance

variable {σ : Type} [RowSource σ] (V : Provenance σ)

/-! ### Concatenation -/

lemma nextShard (p n : Nat) (ss : List (Shard σ)) :
    V.shard.list.Tells .univ ss (ConcatMerge.nextShard p n ss) := by
  induction ss generalizing p n with
  | nil => exact V.shard.list.refl []
  | cons s ss ih =>
    have hrest {s' : Shard σ} (hs : V.shard.Raised none s s') (p' : Nat) :
        Leaves (fun _ ss' => V.shard.list.Raised none (s :: ss) (s' :: ss'))
          (fun e ss' => V.shard.list.Fails .univ (s :: ss) e (s' :: ss'))
          (ConcatMerge.nextShard p' (n + 1) ss) :=
      (ih p' (n + 1)).imp (fun _ _ h => Ledger.list_tail hs h) fun _ _ h => .tail hs h
    cases p with
    | succ p => exact (hrest (V.shard.refl s) p).map (f := (s :: ·))
    | zero =>
      have hadv := V.advance_shard s
      rw [ConcatMerge.nextShard]
      split
      next e s₁ hs₁ => exact (hadv.of_eq_error hs₁).head ss
      next s₁ hs₁ => exact Ledger.list_head (hadv.of_eq_ok hs₁) ss
      next s₁ hs₁ => exact (hrest (hadv.of_eq_ok hs₁) 0).map (f := (s₁ :: ·))

lemma advanceConcat (m : ConcatMerge) (ss : List (Shard σ)) :
    V.shard.list.TellsBeside ss (m.advance ss) := by
  have hnext := V.nextShard m.position 0 ss
  rw [ConcatMerge.advance]
  split
  next e ss₁ hs₁ => exact hnext.of_eq_error hs₁
  next k ss₁ hs₁ => exact hnext.of_eq_ok hs₁
  next k ss₁ hs₁ => exact hnext.of_eq_ok hs₁

/-! ### Ordered merge -/

lemma pushHead (m : OrderedMerge) (s : Shard σ) :
    V.shard.TellsBeside s (m.pushHead s) := by
  have hadv := V.advance_shard s
  rw [OrderedMerge.pushHead]
  split
  next e s₁ hs₁ => exact (hadv.of_eq_error hs₁).free
  next s₁ hs₁ => exact hadv.of_eq_ok hs₁
  next s₁ hs₁ =>
    have h₁ := hadv.of_eq_ok hs₁
    have hread := V.readColumns_shard s₁ m.order.columns
    split
    next e s₂ hs₂ => exact (hread.of_eq_error hs₂).free.behind h₁
    next key s₂ hs₂ =>
      have h₂ := V.shard.trans h₁ (hread.of_eq_ok hs₂)
      split
      · -- the guard refuses the key
        exact Or.inl h₂
      · exact h₂

lemma pushHeads (m : OrderedMerge) (ss : List (Shard σ)) :
    V.shard.list.TellsBeside ss (m.pushHeads ss) := by
  induction ss generalizing m with
  | nil => exact V.shard.list.refl []
  | cons s ss ih =>
    have hpush := V.pushHead m s
    rw [OrderedMerge.pushHeads]
    split
    next e m₁ s₁ hs₁ => exact (hpush.of_eq_error hs₁).head ss
    next m₁ s₁ hs₁ =>
      have h₁ := hpush.of_eq_ok hs₁
      refine Leaves.map (f := fun t : OrderedMerge × List (Shard σ) => (t.1, s₁ :: t.2)) ?_
      exact (ih m₁).imp (fun _ _ h => Ledger.list_tail h₁ h) fun _ _ h => .tail h₁ h

lemma pushHeadAt (m : OrderedMerge) (k : Nat) (ss : List (Shard σ)) :
    V.shard.list.TellsBeside ss (m.pushHeadAt k ss) := by
  rw [OrderedMerge.pushHeadAt]
  split
  · exact V.shard.list.refl ss
  next s hs =>
    refine Leaves.map (f := fun t : OrderedMerge × Shard σ => (t.1, ss.set k t.2)) ?_
    exact (V.pushHead m s).imp (fun _ _ h => Ledger.list_set hs h) fun _ _ h => h.set hs

lemma refill (m : OrderedMerge) (ss : List (Shard σ)) :
    V.shard.list.TellsBeside ss (m.refill ss) := by
  rw [OrderedMerge.refill]
  split
  · split
    · exact V.pushHeadAt _ _ ss
    · exact V.shard.list.refl ss
  · exact V.pushHeads _ ss

lemma advanceOrdered (m : OrderedMerge) (ss : List (Shard σ)) :
    V.shard.list.TellsBeside ss (m.advance ss) := by
  have hrefill := V.refill m ss
  rw [OrderedMerge.advance]
  split
  next e m₁ ss₁ hs₁ => exact hrefill.of_eq_error hs₁
  next m₁ ss₁ hs₁ =>
    have h₁ := hrefill.of_eq_ok hs₁
    split
    · exact h₁
    · exact h₁

/-! ### Grouped merge of sorted shards -/

lemma nextRow (n : Nat) (m : OrderedMerge) (ss : List (Shard σ)) :
    V.shard.list.TellsBeside ss (GroupedStream.nextRow n m ss) := by
  have hadv := V.advanceOrdered m ss
  rw [GroupedStream.nextRow]
  split
  next e m₁ ss₁ hs₁ => exact hadv.of_eq_error hs₁
  next m₁ ss₁ hs₁ => exact hadv.of_eq_ok hs₁
  next m₁ ss₁ hs₁ =>
    have h₁ := hadv.of_eq_ok hs₁
    split
    · exact h₁
    next k hk =>
      split
      · exact h₁
      next s hs =>
        have hread := V.readColumns_shard s (List.range n)
        split
        next e s₁ hs₁ => exact ((hread.of_eq_error hs₁).free.set hs).behind h₁
        next row s₁ hs₁ =>
          exact V.shard.list.trans h₁ (Ledger.list_set hs (hread.of_eq_ok hs₁))

lemma gather (g : Grouping) (key : GroupKey) (group : Group) (m : OrderedMerge)
    (ss : List (Shard σ)) :
    V.shard.list.TellsBeside ss (GroupedStream.gather g key group m ss) := by
  fun_induction GroupedStream.gather g key group m ss with
  | case1 group m ss e m₁ ss₁ hnext => exact (V.nextRow g.columnCount m ss).of_eq_error hnext
  | case2 group m ss m₁ ss₁ hnext => exact (V.nextRow g.columnCount m ss).of_eq_ok hnext
  | case3 group m ss row m₁ ss₁ hnext hsame e hfeed =>
    exact Or.inl ((V.nextRow g.columnCount m ss).of_eq_ok hnext)
  | case4 group m ss row m₁ ss₁ hnext hsame group' hfeed ih =>
    have h₁ := (V.nextRow g.columnCount m ss).of_eq_ok hnext
    exact ih.behind h₁
  | case5 group m ss row m₁ ss₁ hnext hsame =>
    exact (V.nextRow g.columnCount m ss).of_eq_ok hnext

lemma firstRow (m : GroupedStream) (ss : List (Shard σ)) :
    V.shard.list.TellsBeside ss (m.firstRow ss) := by
  rw [GroupedStream.firstRow]
  split
  · exact V.shard.list.refl ss
  · exact (V.nextRow m.grouping.columnCount m.inner ss).beside fun inner =>
      { m with inner, started := true }

lemma emit (m : GroupedStream) (row : Row) (ss : List (Shard σ)) :
    V.shard.list.TellsBeside ss (m.emit row ss) := by
  rw [GroupedStream.emit]
  split
  · exact Or.inl (V.shard.list.refl ss)
  next group hstart =>
    have hgather := V.gather m.grouping (m.grouping.keyOf row) group m.inner ss
    split
    next e inner ss₁ hs₁ => exact hgather.of_eq_error hs₁
    next group' held inner ss₁ hs₁ =>
      have h₁ := hgather.of_eq_ok hs₁
      split
      · exact Or.inl h₁
      · exact h₁

lemma advanceStream (m : GroupedStream) (ss : List (Shard σ)) :
    V.shard.list.TellsBeside ss (m.advance ss) := by
  have hfirst := V.firstRow m ss
  rw [GroupedStream.advance]
  split
  next e m₁ ss₁ hs₁ => exact hfirst.of_eq_error hs₁
  next m₁ ss₁ hs₁ =>
    have h₁ := hfirst.of_eq_ok hs₁
    exact h₁
  next row m₁ ss₁ hs₁ => exact (V.emit m₁ row ss₁).behind (hfirst.of_eq_ok hs₁)

/-! ### Grouped merge in memory -/

lemma drainShard (c : Config) (g : Grouping) (t : GroupTable) (s : Shard σ) :
    V.shard.Tells .univ s (GroupedMemory.drainShard c g t s) := by
  fun_induction GroupedMemory.drainShard c g t s with
  | case1 t s e s₁ hadv => exact ((V.advance_shard s).of_eq_error hadv).free
  | case2 t s s₁ hadv => exact (V.advance_shard s).of_eq_ok hadv
  | case3 t s s₁ hadv hfull => exact Or.inl ((V.advance_shard s).of_eq_ok hadv)
  | case4 t s s₁ hadv hfull e s₂ hread =>
    have h₁ := (V.advance_shard s).of_eq_ok hadv
    exact ((V.readColumns_shard s₁ _).of_eq_error hread).free.behind h₁
  | case5 t s s₁ hadv hfull row s₂ hread e hadd =>
    have h₁ := (V.advance_shard s).of_eq_ok hadv
    exact Or.inl (V.shard.trans h₁ ((V.readColumns_shard s₁ _).of_eq_ok hread))
  | case6 t s s₁ hadv hfull row s₂ hread t₁ hadd ih =>
    have h₁ := (V.advance_shard s).of_eq_ok hadv
    have h₂ := V.shard.trans h₁ ((V.readColumns_shard s₁ _).of_eq_ok hread)
    exact ih.behind h₂

lemma drainShards (c : Config) (g : Grouping) (t : GroupTable) (ss : List (Shard σ)) :
    V.shard.list.Tells .univ ss (GroupedMemory.drainShards c g t ss) := by
  induction ss generalizing t with
  | nil => exact V.shard.list.refl []
  | cons s ss ih =>
    have hdrain := V.drainShard c g t s
    rw [GroupedMemory.drainShards]
    split
    next e s₁ hs₁ => exact (hdrain.of_eq_error hs₁).head ss
    next t₁ s₁ hs₁ =>
      have h₁ := hdrain.of_eq_ok hs₁
      refine Leaves.map (f := fun ss' : List (Shard σ) => s₁ :: ss') ?_
      exact (ih t₁).imp (fun _ _ h => Ledger.list_tail h₁ h) fun _ _ h => .tail h₁ h

lemma advanceMemory (m : GroupedMemory) (ss : List (Shard σ)) :
    V.shard.list.TellsBeside ss (m.advance ss) := by
  rw [GroupedMemory.advance]
  split
  · exact V.shard.list.refl ss
  · have hdrain := V.drainShards m.config m.grouping {} ss
    rw [GroupedMemory.drain]
    rcases hs : GroupedMemory.drainShards m.config m.grouping {} ss with ⟨e | t, ss₁⟩
    · exact hdrain.of_eq_error hs
    · have h₁ := hdrain.of_eq_ok hs
      simp only
      cases GroupedMemory.settle m.grouping m.order t with
      | error e => exact Or.inl h₁
      | ok rows => exact h₁

/-! ### All strategies -/

theorem advanceMerger (m : Merger) (ss : List (Shard σ)) :
    V.shard.list.TellsBeside ss (m.advance ss) := by
  cases m with
  | concat m => exact (V.advanceConcat m ss).beside Merger.concat
  | ordered m => exact (V.advanceOrdered m ss).beside Merger.ordered
  | groupedStream m => exact (V.advanceStream m ss).beside Merger.groupedStream
  | groupedMemory m => exact (V.advanceMemory m ss).beside Merger.groupedMemory

end Provenance

end Confluence
