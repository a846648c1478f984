import Confluence.Proofs.Merge.GroupedMemory
import Confluence.Proofs.Merge.GroupedStream

/-!
# Grouped merges publish whole groups

A grouped merge that answers has read every row it needs. The stream has seen where its group ends,
and the merge in memory has seen the end of every shard. Nothing is asked of the shards here: they
may be out of order, and they may fail at any later call.
-/

namespace Confluence

variable {σ : Type} [RowSource σ] {g : Grouping} {ss ss' : List (Shard σ)}

/-! ### Streams -/

namespace GroupedStream

/-- Rows that an ordered merge draws one after the other. -/
inductive Draws (columnCount : Nat) :
    OrderedMerge → List (Shard σ) → List Row → OrderedMerge → List (Shard σ) → Prop
  | nil {m ss} : Draws columnCount m ss [] m ss
  | cons {m ss r m₁ ss₁ rows m' ss'} : nextRow columnCount m ss = (.ok (some r), m₁, ss₁) →
      Draws columnCount m₁ ss₁ rows m' ss' → Draws columnCount m ss (r :: rows) m' ss'

/-- The rows behind a row that are in its group were drawn up to the end of the merge, or up to a
row of another group, which is held back. -/
structure Closes (g : Grouping) (f : Row) (m : OrderedMerge) (ss : List (Shard σ))
    (rows : List Row) (held : Option Row) (m' : OrderedMerge) (ss' : List (Shard σ)) : Prop where
  draws : ∃ m₁ ss₁, Draws g.columnCount m ss rows m₁ ss₁ ∧
    nextRow g.columnCount m₁ ss₁ = (.ok held, m', ss')
  same : ∀ r ∈ rows, g.same r f = true
  not_same : ∀ r, held = some r → g.same r f = false

/-- A step of a stream publishes a whole group: it opens the group with its first row, folds all
rows behind it that are in the group, and has seen what comes behind them. -/
def PublishesWhole (m : GroupedStream) (ss : List (Shard σ)) (m' : GroupedStream)
    (ss' : List (Shard σ)) : Prop :=
  ∃ f m₁ ss₁ rows out, m.firstRow ss = (.ok (some f), m₁, ss₁) ∧
    Closes m.grouping f m₁.inner ss₁ rows m'.held m'.inner ss' ∧
    m.grouping.mergedRow f (f :: rows) = .ok out ∧ m'.current = some out

lemma gather_eq_ok {f : Row} {group group' : Group} {held : Option Row} {m m' : OrderedMerge}
    (h : gather g (g.keyOf f) group m ss = (.ok (group', held), m', ss')) :
    ∃ rows, Closes g f m ss rows held m' ss' ∧
      rows.foldlM (Group.feed g) group = .ok group' := by
  fun_induction gather g (g.keyOf f) group m ss with
  | case1 group m ss e m₁ ss₁ hnext => cases h
  | case2 group m ss m₁ ss₁ hnext =>
    cases h
    refine ⟨[], ⟨⟨m, ss, .nil, hnext⟩, ?_, ?_⟩, rfl⟩
    · intro r hr
      cases hr
    · intro r hr
      cases hr
  | case3 group m ss row m₁ ss₁ hnext hsame e hfeed => cases h
  | case4 group m ss row m₁ ss₁ hnext hsame group₁ hfeed ih =>
    obtain ⟨rows, ⟨⟨m₂, ss₂, hdraws, hend⟩, hrows, hheld⟩, hfold⟩ := ih h
    refine ⟨row :: rows, ⟨⟨m₂, ss₂, .cons hnext hdraws, hend⟩, ?_, hheld⟩, ?_⟩
    · exact List.forall_mem_cons.mpr ⟨hsame, hrows⟩
    · rw [List.foldlM_cons, hfeed]
      exact hfold
  | case5 group m ss row m₁ ss₁ hnext hsame =>
    cases h
    refine ⟨[], ⟨⟨m, ss, .nil, hnext⟩, ?_, ?_⟩, rfl⟩
    · intro r hr
      cases hr
    · intro r hr
      cases hr
      exact Bool.eq_false_iff.mpr hsame

variable {m m' : GroupedStream}

lemma grouping_firstRow (m : GroupedStream) (ss : List (Shard σ)) :
    (m.firstRow ss).2.1.grouping = m.grouping := by
  rw [firstRow]
  split <;> rfl

/-- A stream never publishes a group whose end it has not seen. -/
theorem publishesWhole_of_advance (h : m.advance ss = (.ok true, m', ss')) :
    m.PublishesWhole ss m' ss' := by
  have hgrouping := grouping_firstRow m ss
  rw [advance] at h
  split at h
  · cases h
  · cases h
  next f m₁ ss₁ hfirst =>
    rw [hfirst] at hgrouping
    simp only at hgrouping
    rw [emit] at h
    split at h
    · cases h
    next group hstart =>
      split at h
      · cases h
      next group' held inner ss₂ hgather =>
        split at h
        · cases h
        next out hfinish =>
          cases h
          rw [hgrouping] at hstart hgather hfinish
          -- the group was started with `f`, so `f` counts as its first member
          obtain ⟨rows, hcloses, hfold⟩ := gather_eq_ok hgather
          refine ⟨f, m₁, ss₁, rows, out, hfirst, hcloses, ?_, rfl⟩
          have hgroup : m.grouping.foldGroup f (f :: rows) = .ok group' := by
            rw [Grouping.foldGroup_cons, hstart]
            exact hfold
          rw [Grouping.mergedRow, hgroup]
          exact hfinish

end GroupedStream

/-! ### Merges in memory -/

namespace Shard

/-- A shard yields rows and is at its end behind them. -/
inductive Yields (columnCount : Nat) : Shard σ → List Row → Shard σ → Prop
  | ended {s s'} : s.advance = (.ok false, s') → Yields columnCount s [] s'
  | row {s s₁ r s₂ rows s'} : s.advance = (.ok true, s₁) →
      s₁.readRow columnCount = (.ok r, s₂) → Yields columnCount s₂ rows s' →
      Yields columnCount s (r :: rows) s'

/-- Shards yield rows one shard after the other, and all of them are at their end behind that. -/
inductive YieldAll (columnCount : Nat) : List (Shard σ) → List Row → List (Shard σ) → Prop
  | nil : YieldAll columnCount [] [] []
  | cons {s rows s' ss rows' ss'} : Yields columnCount s rows s' →
      YieldAll columnCount ss rows' ss' →
      YieldAll columnCount (s :: ss) (rows ++ rows') (s' :: ss')

end Shard

namespace GroupedMemory

/-- The first step of a merge in memory publishes whole groups: every shard was read to its end, and
the groups are those of all their rows. -/
def PublishesWhole (m : GroupedMemory) (ss : List (Shard σ)) (m' : GroupedMemory)
    (ss' : List (Shard σ)) : Prop :=
  ∃ rows t out rest, Shard.YieldAll m.grouping.columnCount ss rows ss' ∧
    GroupTable.collect m.config m.grouping {} rows = .ok t ∧
    settle m.grouping m.order t = .ok (out :: rest) ∧
    m'.current = some out ∧ m'.rows = some rest

lemma drainShard_eq_ok {c : Config} {t t' : GroupTable} {s s' : Shard σ}
    (h : drainShard c g t s = (.ok t', s')) :
    ∃ rows, s.Yields g.columnCount rows s' ∧ t.collect c g rows = .ok t' := by
  fun_induction drainShard c g t s with
  | case1 t s e s₁ hadv => cases h
  | case2 t s s₁ hadv =>
    cases h
    exact ⟨[], .ended hadv, rfl⟩
  | case3 t s s₁ hadv hfull => cases h
  | case4 t s s₁ hadv hfull e s₂ hread => cases h
  | case5 t s s₁ hadv hfull row s₂ hread e hadd => cases h
  | case6 t s s₁ hadv hfull row s₂ hread t₁ hadd ih =>
    obtain ⟨rows, hyields, hcollect⟩ := ih h
    refine ⟨row :: rows, .row hadv hread hyields, ?_⟩
    rw [GroupTable.collect, if_neg hfull, hadd]
    exact hcollect

lemma drainShards_eq_ok {c : Config} {t t' : GroupTable}
    (h : drainShards c g t ss = (.ok t', ss')) :
    ∃ rows, Shard.YieldAll g.columnCount ss rows ss' ∧ t.collect c g rows = .ok t' := by
  induction ss generalizing t ss' with
  | nil =>
    cases h
    exact ⟨[], .nil, rfl⟩
  | cons s ss ih =>
    rw [drainShards] at h
    split at h
    · cases h
    next t₁ s₁ hdrain =>
      rcases hrest : drainShards c g t₁ ss with ⟨r, ss₁⟩
      rw [hrest] at h
      cases h
      obtain ⟨rows, hyields, hcollect⟩ := drainShard_eq_ok hdrain
      obtain ⟨rows', hyields', hcollect'⟩ := ih hrest
      refine ⟨rows ++ rows', .cons hyields hyields', ?_⟩
      rw [GroupTable.collect_append, hcollect]
      exact hcollect'

variable {m m' : GroupedMemory}

/-- A merge in memory publishes nothing before all shards are at their end. -/
theorem publishesWhole_of_advance (hrows : m.rows = none)
    (h : m.advance ss = (.ok true, m', ss')) : m.PublishesWhole ss m' ss' := by
  rw [advance] at h
  rw [hrows] at h
  simp only at h
  split at h
  · cases h
  next out ss₁ hdrain =>
    rw [drain] at hdrain
    split at hdrain
    · cases hdrain
    next t ss₂ hshards =>
      obtain ⟨hsettle, rfl⟩ := Prod.mk.inj hdrain
      obtain ⟨rows, hyield, hcollect⟩ := drainShards_eq_ok hshards
      cases out with
      | nil => cases h
      | cons out rest =>
        cases h
        exact ⟨rows, t, out, rest, hyield, hcollect, hsettle, rfl, rfl⟩

end GroupedMemory

end Confluence
