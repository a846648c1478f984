import Confluence.Merge.Strategy
import Confluence.Proofs.Group.Promises
import Confluence.Proofs.Pointwise
import Confluence.Proofs.Source.Lifecycle

/-!
# Promises of merges

A merge reaches its shards only by moving and reading them, so what these calls keep of a shard, the
merge keeps of all of them. A merge that fails passes on the failure of a shard, or has one of its own
that is no broken promise; and a merge that came to a row knows where the row is.
-/

namespace Confluence

variable {σ ι : Type} [RowSource σ]

/-! ### Shards -/

/-- What calls keep of a shard, and what is known of its failures. Failures that break no promise are
always among them. -/
structure Shard.Upholds (P : ι → Shard σ → Prop) (F : Failure → Prop) : Prop where
  own {e : Failure} : e.isInternalBug = false → F e
  advance {a : ι} {s : Shard σ} : P a s →
    Leaves (fun _ s' => P a s') (fun e s' => F e ∧ P a s') s.advance
  value {a : ι} {s : Shard σ} (i : Nat) (t : SqlType) : P a s →
    Leaves (fun _ s' => P a s') (fun e s' => F e ∧ P a s') (s.value i t)

variable (σ) in
lemma Shard.upholds_true : Upholds (fun _ _ : Shard σ => True) fun _ => True where
  own _ := trivial
  advance _ := leaves_of (fun _ _ => trivial) fun _ _ => ⟨trivial, trivial⟩
  value _ _ _ := leaves_of (fun _ _ => trivial) fun _ _ => ⟨trivial, trivial⟩

namespace TypeGuard

variable {guard : TypeGuard} {key : Row} {keys : List Row} {e : Failure}

/-- A guard refuses a key for the family of a value. -/
lemma exists_typeMismatch_of_accept (h : (guard.accept key).1 = .error e) :
    ∃ expected got, e = .typeMismatch expected got := by
  induction guard generalizing key with
  | nil => cases key <;> cases h
  | cons slot slots ih =>
    cases key with
    | nil => cases h
    | cons c key =>
      unfold accept at h
      cases hfamily : c.family? with
      | none =>
        rw [hfamily] at h
        exact ih h
      | some f =>
        rw [hfamily] at h
        cases slot with
        | none => exact ih h
        | some seen =>
          simp only at h
          split at h
          · exact ih h
          · cases h
            exact ⟨_, _, rfl⟩

lemma exists_typeMismatch_of_acceptAll (h : (guard.acceptAll keys).1 = .error e) :
    ∃ expected got, e = .typeMismatch expected got := by
  induction keys generalizing guard with
  | nil => cases h
  | cons key keys ih =>
    rw [acceptAll] at h
    split at h
    · exact ih h
    next e₁ guard₁ he =>
      cases h
      exact exists_typeMismatch_of_accept (congrArg Prod.fst he)

lemma isInternalBug_of_accept (h : (guard.accept key).1 = .error e) : e.isInternalBug = false := by
  obtain ⟨expected, got, rfl⟩ := exists_typeMismatch_of_accept h
  rfl

end TypeGuard

/-- A table can be finished, so it fails to settle only if its rows cannot be sorted. -/
lemma GroupedMemory.exists_typeMismatch_of_settle {g : Grouping} {o : RowOrder} {t : GroupTable}
    {e : Failure} (hg : g.WellBound) (ht : t.Fits g) (hsettle : settle g o t = .error e) :
    ∃ expected got, e = .typeMismatch expected got := by
  obtain ⟨rows, hrows⟩ := ht.exists_finish hg
  rw [settle, hrows] at hsettle
  simp only at hsettle
  split at hsettle
  next e₁ guard hguard =>
    cases hsettle
    exact TypeGuard.exists_typeMismatch_of_acceptAll (congrArg Prod.fst hguard)
  · cases hsettle

namespace Shard.Upholds

variable {P : ι → Shard σ → Prop} {F : Failure → Prop} {a : ι} {s : Shard σ} {as : List ι}
  {ss : List (Shard σ)}

lemma readColumns (hP : Upholds P F) (h : P a s) (columns : List Nat) :
    Leaves (fun cs s' => P a s' ∧ cs.length = columns.length) (fun e s' => F e ∧ P a s')
      (s.readColumns columns) := by
  induction columns generalizing s with
  | nil => exact ⟨h, rfl⟩
  | cons i columns ih =>
    have hval := hP.value (i + 1) .any h
    rw [Shard.readColumns]
    split
    next e s₁ hs => exact hval.of_eq_error hs
    next c s₁ hs =>
      have hread := ih (hval.of_eq_ok hs)
      split
      next e s₂ hs₂ => exact hread.of_eq_error hs₂
      next cs s₂ hs₂ =>
        obtain ⟨h₂, hlength⟩ := hread.of_eq_ok hs₂
        exact ⟨h₂, congrArg Nat.succ hlength⟩

lemma readRow (hP : Upholds P F) (h : P a s) (n : Nat) :
    Leaves (fun r s' => P a s' ∧ r.length = n) (fun e s' => F e ∧ P a s') (s.readRow n) :=
  (hP.readColumns h (List.range n)).imp
    (fun _ _ h => ⟨h.1, h.2.trans List.length_range⟩) fun _ _ h => h

/-! ### Concatenation -/

lemma nextShard (hP : Upholds P F) (h : List.Forall₂ P as ss) (p n : Nat) :
    Leaves (fun _ ss' => List.Forall₂ P as ss') (fun e ss' => F e ∧ List.Forall₂ P as ss')
      (ConcatMerge.nextShard p n ss) := by
  induction h generalizing p n with
  | nil => exact .nil
  | @cons a s as ss hs hss ih =>
    have hrest {s' : Shard σ} (hs' : P a s') (p' : Nat) :
        Leaves (fun _ ss' => List.Forall₂ P (a :: as) (s' :: ss'))
          (fun e ss' => F e ∧ List.Forall₂ P (a :: as) (s' :: ss'))
          (ConcatMerge.nextShard p' (n + 1) ss) :=
      (ih p' (n + 1)).imp (fun _ _ h => .cons hs' h) fun _ _ h => ⟨h.1, .cons hs' h.2⟩
    cases p with
    | succ p => exact (hrest hs p).map (f := (s :: ·))
    | zero =>
      have hadv := hP.advance hs
      rw [ConcatMerge.nextShard]
      split
      next e s₁ hs₁ =>
        obtain ⟨he, hs₁⟩ := hadv.of_eq_error hs₁
        exact ⟨he, .cons hs₁ hss⟩
      next s₁ hs₁ => exact .cons (hadv.of_eq_ok hs₁) hss
      next s₁ hs₁ => exact (hrest (hadv.of_eq_ok hs₁) 0).map (f := (s₁ :: ·))

lemma advanceConcat (hP : Upholds P F) (h : List.Forall₂ P as ss) (m : ConcatMerge) :
    Leaves (fun b t => List.Forall₂ P as t.2 ∧ (b = true → t.1.current.isSome = true))
      (fun e t => F e ∧ List.Forall₂ P as t.2) (m.advance ss) := by
  have hnext := hP.nextShard h m.position 0
  rw [ConcatMerge.advance]
  split
  next e ss₁ hs₁ => exact hnext.of_eq_error hs₁
  next k ss₁ hs₁ => exact ⟨hnext.of_eq_ok hs₁, fun _ => rfl⟩
  next k ss₁ hs₁ =>
    refine ⟨hnext.of_eq_ok hs₁, ?_⟩
    rintro ⟨⟩

/-! ### Ordered merge -/

lemma pushHead (hP : Upholds P F) (h : P a s) (m : OrderedMerge) :
    Leaves (fun _ t => P a t.2) (fun e t => F e ∧ P a t.2) (m.pushHead s) := by
  have hadv := hP.advance h
  rw [OrderedMerge.pushHead]
  split
  next e s₁ hs₁ => exact hadv.of_eq_error hs₁
  next s₁ hs₁ => exact hadv.of_eq_ok hs₁
  next s₁ hs₁ =>
    have hread := hP.readColumns (hadv.of_eq_ok hs₁) m.order.columns
    split
    next e s₂ hs₂ => exact hread.of_eq_error hs₂
    next key s₂ hs₂ =>
      obtain ⟨h₂, -⟩ := hread.of_eq_ok hs₂
      split
      next e guard hguard =>
        exact ⟨hP.own (TypeGuard.isInternalBug_of_accept (congrArg Prod.fst hguard)), h₂⟩
      · exact h₂

lemma pushHeads (hP : Upholds P F) (h : List.Forall₂ P as ss) (m : OrderedMerge) :
    Leaves (fun _ t => List.Forall₂ P as t.2) (fun e t => F e ∧ List.Forall₂ P as t.2)
      (m.pushHeads ss) := by
  induction h generalizing m with
  | nil => exact .nil
  | @cons a s as ss hs hss ih =>
    have hpush := hP.pushHead hs m
    rw [OrderedMerge.pushHeads]
    split
    next e m₁ s₁ hs₁ =>
      obtain ⟨he, hs₁⟩ := hpush.of_eq_error hs₁
      exact ⟨he, .cons hs₁ hss⟩
    next m₁ s₁ hs₁ =>
      refine Leaves.map (f := fun t : OrderedMerge × List (Shard σ) => (t.1, s₁ :: t.2)) ?_
      have hs' := hpush.of_eq_ok hs₁
      exact (ih m₁).imp (fun _ _ h => .cons hs' h) fun _ _ h => ⟨h.1, .cons hs' h.2⟩

lemma pushHeadAt (hP : Upholds P F) (h : List.Forall₂ P as ss) (m : OrderedMerge) (k : Nat) :
    Leaves (fun _ t => List.Forall₂ P as t.2) (fun e t => F e ∧ List.Forall₂ P as t.2)
      (m.pushHeadAt k ss) := by
  rw [OrderedMerge.pushHeadAt]
  split
  · exact h
  next s hs =>
    obtain ⟨a, ha, hs'⟩ := exists_of_forall₂_getElem? h hs
    refine Leaves.map (f := fun t : OrderedMerge × Shard σ => (t.1, ss.set k t.2)) ?_
    exact (hP.pushHead hs' m).imp (fun _ _ ht => forall₂_set h ha ht)
      fun _ _ ht => ⟨ht.1, forall₂_set h ha ht.2⟩

lemma refill (hP : Upholds P F) (h : List.Forall₂ P as ss) (m : OrderedMerge) :
    Leaves (fun _ t => List.Forall₂ P as t.2) (fun e t => F e ∧ List.Forall₂ P as t.2)
      (m.refill ss) := by
  rw [OrderedMerge.refill]
  split
  · split
    · exact hP.pushHeadAt h _ _
    · exact h
  · exact hP.pushHeads h _

lemma advanceOrdered (hP : Upholds P F) (h : List.Forall₂ P as ss) (m : OrderedMerge) :
    Leaves (fun b t => List.Forall₂ P as t.2 ∧ (b = true → t.1.current.isSome = true))
      (fun e t => F e ∧ List.Forall₂ P as t.2) (m.advance ss) := by
  have hrefill := hP.refill h m
  rw [OrderedMerge.advance]
  split
  next e m₁ ss₁ hs₁ => exact hrefill.of_eq_error hs₁
  next m₁ ss₁ hs₁ =>
    have h₁ := hrefill.of_eq_ok hs₁
    split
    · refine ⟨h₁, ?_⟩
      rintro ⟨⟩
    · exact ⟨h₁, fun _ => rfl⟩

/-! ### Grouped merge of sorted shards -/

lemma nextRow (hP : Upholds P F) (h : List.Forall₂ P as ss) (n : Nat) (m : OrderedMerge) :
    Leaves (fun r t => List.Forall₂ P as t.2 ∧ ∀ row ∈ r, row.length = n)
      (fun e t => F e ∧ List.Forall₂ P as t.2) (GroupedStream.nextRow n m ss) := by
  have hadv := hP.advanceOrdered h m
  have hnone {ss' : List (Shard σ)} (h' : List.Forall₂ P as ss') :
      List.Forall₂ P as ss' ∧ ∀ row ∈ (none : Option Row), row.length = n :=
    ⟨h', fun _ hrow => by cases hrow⟩
  rw [GroupedStream.nextRow]
  split
  next e m₁ ss₁ hs₁ => exact hadv.of_eq_error hs₁
  next m₁ ss₁ hs₁ => exact hnone (hadv.of_eq_ok hs₁).1
  next m₁ ss₁ hs₁ =>
    obtain ⟨h₁, -⟩ := hadv.of_eq_ok hs₁
    split
    · exact hnone h₁
    next k hk =>
      split
      · exact hnone h₁
      next s hs =>
        obtain ⟨a, ha, hs'⟩ := exists_of_forall₂_getElem? h₁ hs
        have hread := hP.readRow hs' n
        split
        next e s₁ hs₁ =>
          obtain ⟨he, hs₁⟩ := hread.of_eq_error hs₁
          exact ⟨he, forall₂_set h₁ ha hs₁⟩
        next row s₁ hs₁ =>
          obtain ⟨hs₁, hlength⟩ := hread.of_eq_ok hs₁
          refine ⟨forall₂_set h₁ ha hs₁, ?_⟩
          rintro row' ⟨⟩
          exact hlength

lemma gather {g : Grouping} {group : Group} (hP : Upholds P F) (h : List.Forall₂ P as ss)
    (hg : g.WellBound) (hgroup : group.Fits g) (key : GroupKey) (m : OrderedMerge) :
    Leaves (fun p t => List.Forall₂ P as t.2 ∧ p.1.Fits g ∧ ∀ row ∈ p.2, row.length = g.columnCount)
      (fun e t => F e ∧ List.Forall₂ P as t.2) (GroupedStream.gather g key group m ss) := by
  have hnext {m : OrderedMerge} {ss : List (Shard σ)} (h : List.Forall₂ P as ss) :=
    hP.nextRow h g.columnCount m
  fun_induction GroupedStream.gather g key group m ss with
  | case1 group m ss e m₁ ss₁ hrow => exact (hnext h).of_eq_error hrow
  | case2 group m ss m₁ ss₁ hrow =>
    obtain ⟨h₁, hlength⟩ := (hnext h).of_eq_ok hrow
    exact ⟨h₁, hgroup, hlength⟩
  | case3 group m ss row m₁ ss₁ hrow hsame e hfeed =>
    exact ⟨hP.own (hgroup.isInternalBug_of_feed hg hfeed), ((hnext h).of_eq_ok hrow).1⟩
  | case4 group m ss row m₁ ss₁ hrow hsame group' hfeed ih =>
    exact ih ((hnext h).of_eq_ok hrow).1 (hgroup.feed hfeed)
  | case5 group m ss row m₁ ss₁ hrow hsame =>
    obtain ⟨h₁, hlength⟩ := (hnext h).of_eq_ok hrow
    exact ⟨h₁, hgroup, hlength⟩

end Shard.Upholds

/-- A grouped merge that has a bound grouping and holds back only whole rows. -/
structure GroupedStream.WellBound (m : GroupedStream) : Prop where
  grouping : m.grouping.WellBound
  held : ∀ row ∈ m.held, row.length = m.grouping.columnCount

namespace Shard.Upholds

variable {P : ι → Shard σ → Prop} {F : Failure → Prop} {a : ι} {s : Shard σ} {as : List ι}
  {ss : List (Shard σ)}

lemma firstRow {m : GroupedStream} (hP : Upholds P F) (h : List.Forall₂ P as ss)
    (hm : m.WellBound) :
    Leaves (fun r t => List.Forall₂ P as t.2 ∧ t.1.grouping = m.grouping ∧ t.1.WellBound ∧
        ∀ row ∈ r, row.length = m.grouping.columnCount)
      (fun e t => F e ∧ List.Forall₂ P as t.2) (m.firstRow ss) := by
  rw [GroupedStream.firstRow]
  split
  · refine ⟨h, rfl, ⟨hm.grouping, ?_⟩, hm.held⟩
    rintro row ⟨⟩
  · refine Leaves.map (f := fun t : OrderedMerge × List (Shard σ) =>
      ({ m with inner := t.1, started := true }, t.2)) ?_
    exact (hP.nextRow h m.grouping.columnCount m.inner).imp
      (fun _ _ ht => ⟨ht.1, rfl, ⟨hm.grouping, hm.held⟩, ht.2⟩) fun _ _ ht => ht

lemma emit {m : GroupedStream} {row : Row} (hP : Upholds P F) (h : List.Forall₂ P as ss)
    (hm : m.WellBound) (hrow : row.length = m.grouping.columnCount) :
    Leaves (fun _ t => List.Forall₂ P as t.2 ∧ t.1.WellBound ∧ t.1.current.isSome = true)
      (fun e t => F e ∧ List.Forall₂ P as t.2) (m.emit row ss) := by
  rw [GroupedStream.emit]
  split
  next e hstart => exact ⟨hP.own (Group.isInternalBug_of_start hm.grouping hrow hstart), h⟩
  next group hstart =>
    have hgather := hP.gather h hm.grouping (Group.fits_of_start hrow hstart)
      (m.grouping.keyOf row) m.inner
    split
    next e inner ss₁ hs₁ => exact hgather.of_eq_error hs₁
    next group' held inner ss₁ hs₁ =>
      obtain ⟨h₁, hfits, hheld⟩ := hgather.of_eq_ok hs₁
      obtain ⟨out, hout⟩ := hfits.exists_finish hm.grouping
      simp only [hout]
      exact ⟨h₁, ⟨hm.grouping, hheld⟩, rfl⟩

lemma advanceStream {m : GroupedStream} (hP : Upholds P F) (h : List.Forall₂ P as ss)
    (hm : m.WellBound) :
    Leaves (fun b t => List.Forall₂ P as t.2 ∧ t.1.WellBound ∧
        (b = true → t.1.current.isSome = true))
      (fun e t => F e ∧ List.Forall₂ P as t.2) (m.advance ss) := by
  have hfirst := hP.firstRow h hm
  rw [GroupedStream.advance]
  split
  next e m₁ ss₁ hs₁ => exact hfirst.of_eq_error hs₁
  next m₁ ss₁ hs₁ =>
    obtain ⟨h₁, -, hm₁, -⟩ := hfirst.of_eq_ok hs₁
    refine ⟨h₁, ⟨hm₁.grouping, hm₁.held⟩, ?_⟩
    rintro ⟨⟩
  next row m₁ ss₁ hs₁ =>
    obtain ⟨h₁, hgrouping, hm₁, hrow⟩ := hfirst.of_eq_ok hs₁
    rw [← hgrouping] at hrow
    exact (hP.emit h₁ hm₁ (hrow row rfl)).imp (fun _ _ ht => ⟨ht.1, ht.2.1, fun _ => ht.2.2⟩)
      fun _ _ ht => ht

/-! ### Grouped merge in memory -/

lemma drainShard {g : Grouping} {t : GroupTable} (hP : Upholds P F) (h : P a s)
    (hg : g.WellBound) (ht : t.Fits g) (c : Config) :
    Leaves (fun t' s' => P a s' ∧ t'.Fits g) (fun e s' => F e ∧ P a s')
      (GroupedMemory.drainShard c g t s) := by
  fun_induction GroupedMemory.drainShard c g t s with
  | case1 t s e s₁ hadv => exact (hP.advance h).of_eq_error hadv
  | case2 t s s₁ hadv => exact ⟨(hP.advance h).of_eq_ok hadv, ht⟩
  | case3 t s s₁ hadv hfull => exact ⟨hP.own rfl, (hP.advance h).of_eq_ok hadv⟩
  | case4 t s s₁ hadv hfull e s₂ hread =>
    exact (hP.readRow ((hP.advance h).of_eq_ok hadv) g.columnCount).of_eq_error hread
  | case5 t s s₁ hadv hfull row s₂ hread e hadd =>
    obtain ⟨h₂, hrow⟩ :=
      (hP.readRow ((hP.advance h).of_eq_ok hadv) g.columnCount).of_eq_ok hread
    exact ⟨hP.own (ht.isInternalBug_of_add hg hrow hadd), h₂⟩
  | case6 t s s₁ hadv hfull row s₂ hread t₁ hadd ih =>
    obtain ⟨h₂, hrow⟩ :=
      (hP.readRow ((hP.advance h).of_eq_ok hadv) g.columnCount).of_eq_ok hread
    exact ih h₂ (ht.add hrow hadd)

lemma drainShards {g : Grouping} {t : GroupTable} (hP : Upholds P F) (h : List.Forall₂ P as ss)
    (hg : g.WellBound) (ht : t.Fits g) (c : Config) :
    Leaves (fun t' ss' => List.Forall₂ P as ss' ∧ t'.Fits g)
      (fun e ss' => F e ∧ List.Forall₂ P as ss') (GroupedMemory.drainShards c g t ss) := by
  induction h generalizing t with
  | nil => exact ⟨.nil, ht⟩
  | @cons a s as ss hs hss ih =>
    have hdrain := hP.drainShard hs hg ht c
    rw [GroupedMemory.drainShards]
    split
    next e s₁ hs₁ =>
      obtain ⟨he, hs₁⟩ := hdrain.of_eq_error hs₁
      exact ⟨he, .cons hs₁ hss⟩
    next t₁ s₁ hs₁ =>
      obtain ⟨hs₁, ht₁⟩ := hdrain.of_eq_ok hs₁
      refine Leaves.map (f := fun ss' : List (Shard σ) => s₁ :: ss') ?_
      exact (ih ht₁).imp (fun _ _ h => ⟨.cons hs₁ h.1, h.2⟩) fun _ _ h => ⟨h.1, .cons hs₁ h.2⟩

lemma advanceMemory {m : GroupedMemory} (hP : Upholds P F) (h : List.Forall₂ P as ss)
    (hm : m.grouping.WellBound) :
    Leaves (fun b t => List.Forall₂ P as t.2 ∧ t.1.grouping.WellBound ∧
        (b = true → t.1.current.isSome = true))
      (fun e t => F e ∧ List.Forall₂ P as t.2) (m.advance ss) := by
  have hpop {m' : GroupedMemory} (rows : List Row) (hm' : m'.grouping.WellBound) :
      (m'.pop rows).2.grouping.WellBound ∧
        ((m'.pop rows).1 = true → (m'.pop rows).2.current.isSome = true) := by
    cases rows with
    | nil =>
      refine ⟨hm', ?_⟩
      rintro ⟨⟩
    | cons row rows => exact ⟨hm', fun _ => rfl⟩
  rw [GroupedMemory.advance]
  split
  next rows hrows => exact ⟨h, hpop rows hm⟩
  next hrows =>
    have hdrain := hP.drainShards h hm (GroupTable.fits_empty _) m.config
    rw [GroupedMemory.drain]
    rcases hs : GroupedMemory.drainShards m.config m.grouping {} ss with ⟨e | t, ss₁⟩
    · exact hdrain.of_eq_error hs
    · obtain ⟨h₁, ht⟩ := hdrain.of_eq_ok hs
      simp only
      cases hsettle : GroupedMemory.settle m.grouping m.order t with
      | error e =>
        obtain ⟨expected, got, rfl⟩ := GroupedMemory.exists_typeMismatch_of_settle hm ht hsettle
        exact ⟨hP.own rfl, h₁⟩
      | ok rows => exact ⟨h₁, hpop rows hm⟩

end Shard.Upholds

/-! ### All strategies -/

namespace Merger

/-- A merge whose grouping, if it has one, was bound. -/
def WellBound : Merger → Prop
  | .concat _ => True
  | .ordered _ => True
  | .groupedStream m => m.WellBound
  | .groupedMemory m => m.grouping.WellBound

lemma wellBound_start {x : LabelIndex} {shape : Shape} {b : BoundShape}
    (h : BoundShape.bind x shape = .ok b) (c : Config) (s : Strategy) : (start c b s).WellBound := by
  have hg := Grouping.wellBound_of_bind h c.averageScale
  cases s with
  | concat => trivial
  | ordered => trivial
  | groupedStream =>
    refine ⟨hg, ?_⟩
    rintro row ⟨⟩
  | groupedMemory => exact hg

variable {P : ι → Shard σ → Prop} {F : Failure → Prop} {as : List ι} {ss : List (Shard σ)}

/-- A step of a merge keeps of its shards what their calls keep. It fails as a shard does, or
without breaking a promise; and if it comes to a row, the merge knows where. -/
theorem WellBound.advance {m : Merger} (hm : m.WellBound) (hP : Shard.Upholds P F)
    (h : List.Forall₂ P as ss) :
    Leaves (fun b t => List.Forall₂ P as t.2 ∧ t.1.WellBound ∧
        (b = true → t.1.current.isSome = true))
      (fun e t => F e ∧ List.Forall₂ P as t.2) (m.advance ss) := by
  cases m with
  | concat m =>
    refine Leaves.map (f := fun t : ConcatMerge × List (Shard σ) => (Merger.concat t.1, t.2)) ?_
    refine (hP.advanceConcat h m).imp (fun b t ht => ⟨ht.1, trivial, fun hb => ?_⟩) fun _ _ ht => ht
    rw [current, Option.isSome_map]
    exact ht.2 hb
  | ordered m =>
    refine Leaves.map (f := fun t : OrderedMerge × List (Shard σ) => (Merger.ordered t.1, t.2)) ?_
    refine (hP.advanceOrdered h m).imp (fun b t ht => ⟨ht.1, trivial, fun hb => ?_⟩) fun _ _ ht => ht
    rw [current, Option.isSome_map]
    exact ht.2 hb
  | groupedStream m =>
    refine Leaves.map
      (f := fun t : GroupedStream × List (Shard σ) => (Merger.groupedStream t.1, t.2)) ?_
    refine (hP.advanceStream h hm).imp (fun b t ht => ⟨ht.1, ht.2.1, fun hb => ?_⟩) fun _ _ ht => ht
    rw [current, Option.isSome_map]
    exact ht.2.2 hb
  | groupedMemory m =>
    refine Leaves.map
      (f := fun t : GroupedMemory × List (Shard σ) => (Merger.groupedMemory t.1, t.2)) ?_
    refine (hP.advanceMemory h hm).imp (fun b t ht => ⟨ht.1, ht.2.1, fun hb => ?_⟩) fun _ _ ht => ht
    rw [current, Option.isSome_map]
    exact ht.2.2 hb

/-- Every group that a merge gathers in its next step can be finished. -/
def FinishesGroups (ss : List (Shard σ)) : Merger → Prop
  | .concat _ => True
  | .ordered _ => True
  | .groupedStream m => ∀ row m₁ ss₁ group group' held inner ss₂,
      m.firstRow ss = (.ok (some row), m₁, ss₁) → Group.start m₁.grouping row = .ok group →
      GroupedStream.gather m₁.grouping (m₁.grouping.keyOf row) group m₁.inner ss₁ =
        (.ok (group', held), inner, ss₂) →
      ∃ out, group'.finish m₁.grouping = .ok out
  | .groupedMemory m => ∀ t ss₁,
      GroupedMemory.drainShards m.config m.grouping {} ss = (.ok t, ss₁) →
      ∃ rows, t.finish m.grouping = .ok rows

theorem WellBound.finishesGroups {m : Merger} (hm : m.WellBound) (ss : List (Shard σ)) :
    m.FinishesGroups ss := by
  have hss (ss : List (Shard σ)) : List.Forall₂ (fun _ _ : Shard σ => True) ss ss :=
    List.forall₂_same.mpr fun _ _ => trivial
  cases m with
  | concat m => trivial
  | ordered m => trivial
  | groupedStream m =>
    intro row m₁ ss₁ group group' held inner ss₂ hfirst hstart hgather
    obtain ⟨-, hgrouping, hm₁, hrow⟩ := ((Shard.upholds_true σ).firstRow (hss ss) hm).of_eq_ok hfirst
    rw [← hgrouping] at hrow
    have hfits := Group.fits_of_start (hrow row rfl) hstart
    obtain ⟨-, hfits', -⟩ :=
      ((Shard.upholds_true σ).gather (hss ss₁) hm₁.grouping hfits _ m₁.inner).of_eq_ok hgather
    exact hfits'.exists_finish hm₁.grouping
  | groupedMemory m =>
    intro t ss₁ hdrain
    obtain ⟨-, ht⟩ := ((Shard.upholds_true σ).drainShards (hss ss) hm (GroupTable.fits_empty _)
      m.config).of_eq_ok hdrain
    exact ht.exists_finish hm

end Merger

end Confluence
