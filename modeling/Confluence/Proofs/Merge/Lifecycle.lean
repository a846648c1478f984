import Confluence.Merge.Strategy
import Confluence.Proofs.Pointwise
import Confluence.Proofs.Source.Lifecycle
import Mathlib.Data.List.Perm.Basic

/-!
# Merges keep to the lifecycle of their shards

A merge that is poised advances only shards that may be advanced and reads only shards that sit on
a row. In the ordered merge these are the shards of the heads, and the shard whose row went out
last is not among them, so moving it on leaves the other heads where they are. A step that fails
leaves every shard in a state in which it can be closed.
-/

namespace Confluence

namespace Lifecycle

variable {σ ι : Type} [RowSource σ] (L : Lifecycle σ ι)

/-- The shard at a position may be read. -/
def OnRowAt (ps : List (ι × Nat)) (ss : List (Shard σ)) (k : Nat) : Prop :=
  ∃ p s, ps[k]? = some p ∧ ss[k]? = some s ∧ L.OnRowShard p s

variable {L} {ps : List (ι × Nat)} {ss ss' : List (Shard σ)} {k : Nat}

lemma OnRowAt.cons {p : ι × Nat} {s : Shard σ} (h : L.OnRowAt ps ss k) :
    L.OnRowAt (p :: ps) (s :: ss) (k + 1) := h

lemma OnRowAt.set {p : ι × Nat} {s : Shard σ} {j : Nat} (h : L.OnRowAt ps ss k)
    (hp : ps[j]? = some p) (hs : L.OnRowShard p s) : L.OnRowAt ps (ss.set j s) k := by
  obtain ⟨p', s', hp', hs', hrow⟩ := h
  by_cases hj : j = k
  · subst hj
    refine ⟨p, s, hp, ?_, hs⟩
    rw [List.getElem?_set_self (List.getElem?_eq_some_iff.mp hs').1]
  · exact ⟨p', s', hp', by rw [List.getElem?_set_ne hj, hs'], hrow⟩

lemma OnRowAt.set_ne {s : Shard σ} {j : Nat} (h : L.OnRowAt ps ss k) (hj : j ≠ k) :
    L.OnRowAt ps (ss.set j s) k := by
  obtain ⟨p', s', hp', hs', hrow⟩ := h
  exact ⟨p', s', hp', by rw [List.getElem?_set_ne hj, hs'], hrow⟩

lemma openShards (h : List.Forall₂ L.ReadyShard ps ss) : List.Forall₂ L.OpenShard ps ss :=
  h.imp fun _ _ hs => hs.toOpenShard

/-! ### Concatenation -/

lemma nextShard_leaves (h : List.Forall₂ L.ReadyShard ps ss) (p n : Nat) :
    Leaves (fun a ss' => List.Forall₂ L.ReadyShard ps ss' ∧
        (a.1 = true → ∃ j, a.2 = n + j ∧ L.OnRowAt ps ss' j))
      (fun _ ss' => List.Forall₂ L.OpenShard ps ss') (ConcatMerge.nextShard p n ss) := by
  induction h generalizing p n with
  | nil =>
    refine ⟨.nil, ?_⟩
    rintro ⟨⟩
  | @cons q s ps ss hs hss ih =>
    -- what holds of the shards behind the first one holds of all
    have hrest {s' : Shard σ} (hs' : L.ReadyShard q s') (p' : Nat) :
        Leaves (fun a ss' => List.Forall₂ L.ReadyShard (q :: ps) (s' :: ss') ∧
            (a.1 = true → ∃ j, a.2 = n + j ∧ L.OnRowAt (q :: ps) (s' :: ss') j))
          (fun _ ss' => List.Forall₂ L.OpenShard (q :: ps) (s' :: ss'))
          (ConcatMerge.nextShard p' (n + 1) ss) := by
      have hnext := ih p' (n + 1)
      apply leaves_of
      · intro a ha
        obtain ⟨hready, hrow⟩ := hnext.of_eq_ok (Prod.ext ha rfl)
        refine ⟨.cons hs' hready, fun ha' => ?_⟩
        obtain ⟨j, hj, hrow'⟩ := hrow ha'
        exact ⟨j + 1, by omega, hrow'.cons⟩
      · intro e he
        exact .cons hs'.toOpenShard (hnext.of_eq_error (Prod.ext he rfl))
    cases p with
    | succ p => exact (hrest hs p).map (f := (s :: ·))
    | zero =>
      have hadv := hs.advance
      rw [ConcatMerge.nextShard]
      split
      next e s' hs' => exact .cons (hadv.of_eq_error hs') (openShards hss)
      next s' hs' =>
        obtain ⟨hready, hrow⟩ := hadv.of_eq_ok hs'
        exact ⟨.cons hready hss, fun _ => ⟨0, rfl, q, s', rfl, rfl, hrow rfl⟩⟩
      next s' hs' =>
        obtain ⟨hready, -⟩ := hadv.of_eq_ok hs'
        exact (hrest hready 0).map (f := (s' :: ·))

lemma advanceConcat_leaves (h : List.Forall₂ L.ReadyShard ps ss) (m : ConcatMerge) :
    Leaves (fun b t => List.Forall₂ L.ReadyShard ps t.2 ∧
        ∀ k, b = true → t.1.current = some k → L.OnRowAt ps t.2 k)
      (fun _ t => List.Forall₂ L.OpenShard ps t.2) (m.advance ss) := by
  have hnext := nextShard_leaves h m.position 0
  rw [ConcatMerge.advance]
  split
  next e ss₁ hs₁ => exact hnext.of_eq_error hs₁
  next k ss₁ hs₁ =>
    obtain ⟨hready, hrow⟩ := hnext.of_eq_ok hs₁
    refine ⟨hready, ?_⟩
    rintro j - ⟨⟩
    obtain ⟨i, hi, hrow'⟩ := hrow rfl
    rw [Nat.zero_add] at hi
    rwa [← hi] at hrow'
  next k ss₁ hs₁ =>
    refine ⟨(hnext.of_eq_ok hs₁).1, ?_⟩
    rintro _ ⟨⟩

/-! ### Ordered merge -/

variable (L) in
/-- A merge whose heads are the keys of different shards that sit on a row. The shard whose row
went out last has no head. -/
structure PoisedOrdered (ps : List (ι × Nat)) (m : OrderedMerge) (ss : List (Shard σ)) : Prop where
  ready : List.Forall₂ L.ReadyShard ps ss
  onRow : ∀ k ∈ m.heads.map (·.shard), L.OnRowAt ps ss k
  nodup : (m.heads.map (·.shard)).Nodup
  current : ∀ k, m.current = some k → k ∉ m.heads.map (·.shard)
  fresh : m.started = false → m.heads = [] ∧ m.current = none

lemma PoisedOrdered.set {m : OrderedMerge} {p : ι × Nat} {s : Shard σ}
    (h : L.PoisedOrdered ps m ss) (hp : ps[k]? = some p) (hs : L.OnRowShard p s) :
    L.PoisedOrdered ps m (ss.set k s) where
  ready := forall₂_set h.ready hp hs.readyShard
  onRow j hj := (h.onRow j hj).set hp hs
  nodup := h.nodup
  current := h.current
  fresh := h.fresh

/-- A shard that has no head gets one if it comes to a row. -/
lemma pushHead_leaves {p : ι × Nat} {s : Shard σ} {m : OrderedMerge} (hs : L.ReadyShard p s)
    (hp : p.2 ∉ m.heads.map (·.shard)) (hnodup : (m.heads.map (·.shard)).Nodup) :
    Leaves (fun _ t => L.ReadyShard p t.2 ∧ t.1.started = m.started ∧ t.1.current = m.current ∧
        (t.1.heads.map (·.shard)).Nodup ∧ ∀ j ∈ t.1.heads.map (·.shard),
          j ∈ m.heads.map (·.shard) ∨ j = p.2 ∧ L.OnRowShard p t.2)
      (fun _ t => L.OpenShard p t.2) (m.pushHead s) := by
  have hadv := hs.advance
  rw [OrderedMerge.pushHead]
  split
  next e s₁ hs₁ => exact hadv.of_eq_error hs₁
  next s₁ hs₁ => exact ⟨(hadv.of_eq_ok hs₁).1, rfl, rfl, hnodup, fun j hj => Or.inl hj⟩
  next s₁ hs₁ =>
    have hread := ((hadv.of_eq_ok hs₁).2 rfl).readColumns m.order.columns
    split
    next e s₂ hs₂ => exact hread.of_eq_error hs₂
    next key s₂ hs₂ =>
      have hrow := hread.of_eq_ok hs₂
      split
      · exact hrow.readyShard.toOpenShard
      · have hheads : (Head.mk key s₂.number :: m.heads).map (·.shard) =
            p.2 :: m.heads.map (·.shard) := by rw [List.map_cons, hrow.number_eq]
        refine ⟨hrow.readyShard, rfl, rfl, ?_, fun j hj => ?_⟩
        · rw [hheads]
          exact List.nodup_cons.mpr ⟨hp, hnodup⟩
        · rw [hheads] at hj
          rcases List.mem_cons.mp hj with rfl | hj
          · exact Or.inr ⟨rfl, hrow⟩
          · exact Or.inl hj

/-- At the start each shard that comes to a row gets a head of its own, since no two shards have
the same number. -/
lemma pushHeads_leaves {as : List ι} {m : OrderedMerge}
    (h : List.Forall₂ L.ReadyShard (as.zipIdx k) ss) (hlt : ∀ j ∈ m.heads.map (·.shard), j < k)
    (hnodup : (m.heads.map (·.shard)).Nodup) :
    Leaves (fun _ t => List.Forall₂ L.ReadyShard (as.zipIdx k) t.2 ∧ t.1.started = m.started ∧
        t.1.current = m.current ∧ (t.1.heads.map (·.shard)).Nodup ∧
        ∀ j ∈ t.1.heads.map (·.shard), j ∈ m.heads.map (·.shard) ∨
          ∃ i, j = k + i ∧ L.OnRowAt (as.zipIdx k) t.2 i)
      (fun _ t => List.Forall₂ L.OpenShard (as.zipIdx k) t.2) (m.pushHeads ss) := by
  induction as generalizing k m ss with
  | nil =>
    cases h
    exact ⟨.nil, rfl, rfl, hnodup, fun j hj => Or.inl hj⟩
  | cons a as ih =>
    rw [List.zipIdx_cons] at h ⊢
    cases h with
    | @cons _ s _ ss hs hss =>
      have hpush := pushHead_leaves hs (fun hk => Nat.lt_irrefl k (hlt k hk)) hnodup
      rw [OrderedMerge.pushHeads]
      split
      next e m₁ s₁ hs₁ => exact .cons (hpush.of_eq_error hs₁) (openShards hss)
      next m₁ s₁ hs₁ =>
        obtain ⟨hready, hstarted, hcurrent, hnodup₁, hheads⟩ := hpush.of_eq_ok hs₁
        have hlt₁ : ∀ j ∈ m₁.heads.map (·.shard), j < k + 1 := by
          intro j hj
          rcases hheads j hj with hj | ⟨hj, -⟩
          · exact Nat.lt_succ_of_lt (hlt j hj)
          · exact Nat.lt_succ_of_le (Nat.le_of_eq hj)
        have hrest := ih hss hlt₁ hnodup₁
        rcases hpush' : m₁.pushHeads ss with ⟨e | u, m₂, ss₂⟩
        · exact .cons hready.toOpenShard (hrest.of_eq_error hpush')
        · obtain ⟨hready₂, hstarted₂, hcurrent₂, hnodup₂, hheads₂⟩ := hrest.of_eq_ok hpush'
          refine ⟨.cons hready hready₂, hstarted₂.trans hstarted, hcurrent₂.trans hcurrent,
            hnodup₂, fun j hj => ?_⟩
          rcases hheads₂ j hj with hj | ⟨i, rfl, hrow⟩
          · rcases hheads j hj with hj | ⟨hj, hrow⟩
            · exact Or.inl hj
            · exact Or.inr ⟨0, hj, (a, k), s₁, rfl, rfl, hrow⟩
          · exact Or.inr ⟨i + 1, by omega, hrow.cons⟩

variable {as : List ι}

lemma snd_eq_of_getElem?_zipIdx {p : ι × Nat} (h : as.zipIdx[k]? = some p) : p.2 = k := by
  rw [List.getElem?_zipIdx, Option.map_eq_some_iff] at h
  obtain ⟨a, -, rfl⟩ := h
  exact Nat.zero_add k

/-- The shard whose row went out is moved on, and the other heads stay where they are. -/
lemma PoisedOrdered.pushHeadAt {m : OrderedMerge} (h : L.PoisedOrdered as.zipIdx m ss)
    (hk : m.current = some k) (hstarted : m.started = true) :
    Leaves (fun _ t => L.PoisedOrdered as.zipIdx t.1 t.2)
      (fun _ t => List.Forall₂ L.OpenShard as.zipIdx t.2)
      ({ m with current := none }.pushHeadAt k ss) := by
  rw [OrderedMerge.pushHeadAt]
  split
  next hnone =>
    refine ⟨h.ready, h.onRow, h.nodup, ?_, fun hs => ?_⟩
    · rintro j ⟨⟩
    · rw [hstarted] at hs
      cases hs
  next s hs =>
    obtain ⟨p, hp, hready⟩ := exists_of_forall₂_getElem? h.ready hs
    obtain rfl := snd_eq_of_getElem?_zipIdx hp
    have hpush := pushHead_leaves (m := { m with current := none }) hready (h.current p.2 hk)
      h.nodup
    rcases hpush' : OrderedMerge.pushHead { m with current := none } s with ⟨e | u, m₁, s₁⟩
    · exact forall₂_set (openShards h.ready) hp (hpush.of_eq_error hpush')
    · obtain ⟨hready₁, hstarted₁, hcurrent₁, hnodup₁, hheads⟩ := hpush.of_eq_ok hpush'
      refine ⟨forall₂_set h.ready hp hready₁, fun j hj => ?_, hnodup₁, ?_, ?_⟩
      · rcases hheads j hj with hj | ⟨rfl, hrow⟩
        · exact (h.onRow j hj).set_ne fun hj' => h.current p.2 hk (hj' ▸ hj)
        · refine ⟨p, s₁, hp, ?_, hrow⟩
          rw [List.getElem?_set_self (List.getElem?_eq_some_iff.mp hs).1]
      · intro j hj
        rw [hcurrent₁] at hj
        cases hj
      · intro hs'
        rw [hstarted₁, hstarted] at hs'
        cases hs'

lemma PoisedOrdered.refill {m : OrderedMerge} (h : L.PoisedOrdered as.zipIdx m ss) :
    Leaves (fun _ t => L.PoisedOrdered as.zipIdx t.1 t.2)
      (fun _ t => List.Forall₂ L.OpenShard as.zipIdx t.2) (m.refill ss) := by
  rw [OrderedMerge.refill]
  split
  next hstarted =>
    split
    next k hk => exact h.pushHeadAt hk hstarted
    · exact h
  next hstarted =>
    obtain ⟨hheads, hcurrent⟩ := h.fresh (Bool.not_eq_true _ ▸ hstarted)
    have hpush := pushHeads_leaves (m := { m with started := true }) h.ready
      (by simp [hheads]) h.nodup
    apply leaves_of
    · intro u hu
      obtain ⟨hready, hstarted', hcurrent', hnodup, hnew⟩ := hpush.of_eq_ok (Prod.ext hu rfl)
      refine ⟨hready, fun j hj => ?_, hnodup, ?_, ?_⟩
      · rcases hnew j hj with hj | ⟨i, rfl, hrow⟩
        · rw [hheads] at hj
          cases hj
        · rwa [Nat.zero_add]
      · intro j hj
        rw [hcurrent', hcurrent] at hj
        cases hj
      · intro hs'
        rw [hstarted'] at hs'
        cases hs'
    · intro e he
      exact hpush.of_eq_error (Prod.ext he rfl)

lemma perm_takeLeast (o : RowOrder) (h : Head) (hs : List Head) :
    ((h.takeLeast o hs).1 :: (h.takeLeast o hs).2).Perm (h :: hs) := by
  induction hs generalizing h with
  | nil => exact List.Perm.refl _
  | cons x xs ih =>
    rw [Head.takeLeast]
    split
    · exact (List.Perm.swap _ _ _).trans ((ih x).cons h)
    · exact (List.Perm.swap _ _ _).trans (((ih h).cons x).trans (List.Perm.swap _ _ _))

/-- The ordered merge takes its row from a shard that sits on one. -/
lemma PoisedOrdered.advance {m : OrderedMerge} (h : L.PoisedOrdered as.zipIdx m ss) :
    Leaves (fun b t => L.PoisedOrdered as.zipIdx t.1 t.2 ∧
        ∀ k, b = true → t.1.current = some k → L.OnRowAt as.zipIdx t.2 k)
      (fun _ t => List.Forall₂ L.OpenShard as.zipIdx t.2) (m.advance ss) := by
  have hrefill := h.refill
  rw [OrderedMerge.advance]
  split
  next e m₁ ss₁ hs₁ => exact hrefill.of_eq_error hs₁
  next m₁ ss₁ hs₁ =>
    have h₁ := hrefill.of_eq_ok hs₁
    split
    next hheads =>
      refine ⟨⟨h₁.ready, h₁.onRow, h₁.nodup, ?_, fun _ => ⟨hheads, rfl⟩⟩, ?_⟩
      · rintro j ⟨⟩
      · rintro k ⟨⟩
    next x xs hheads =>
      have hperm := (perm_takeLeast m₁.order x xs).map (·.shard)
      rw [← hheads] at hperm
      have hnodup := hperm.nodup_iff.mpr h₁.nodup
      rw [List.map_cons, List.nodup_cons] at hnodup
      constructor
      · refine ⟨h₁.ready, fun j hj => ?_, hnodup.2, ?_, fun hs => ?_⟩
        · exact h₁.onRow j (hperm.mem_iff.mp (List.mem_cons_of_mem _ hj))
        · rintro j ⟨⟩
          exact hnodup.1
        · have := (h₁.fresh hs).1
          rw [hheads] at this
          cases this
      · rintro k - ⟨⟩
        exact h₁.onRow _ (hperm.mem_iff.mp List.mem_cons_self)

/-! ### Grouped merge of sorted shards -/

lemma PoisedOrdered.nextRow {m : OrderedMerge} (h : L.PoisedOrdered as.zipIdx m ss) (n : Nat) :
    Leaves (fun _ t => L.PoisedOrdered as.zipIdx t.1 t.2)
      (fun _ t => List.Forall₂ L.OpenShard as.zipIdx t.2) (GroupedStream.nextRow n m ss) := by
  have hadv := h.advance
  rw [GroupedStream.nextRow]
  split
  next e m₁ ss₁ hs₁ => exact hadv.of_eq_error hs₁
  next m₁ ss₁ hs₁ => exact (hadv.of_eq_ok hs₁).1
  next m₁ ss₁ hs₁ =>
    obtain ⟨h₁, hrow⟩ := hadv.of_eq_ok hs₁
    split
    · exact h₁
    next k hk =>
      split
      · exact h₁
      next s hs =>
        obtain ⟨p, s', hp, hs', hrow⟩ := hrow k rfl hk
        obtain rfl : s = s' := Option.some.inj (hs.symm.trans hs')
        have hread := hrow.readColumns (List.range n)
        split
        next e s₁ hs₁ => exact forall₂_set (openShards h₁.ready) hp (hread.of_eq_error hs₁)
        next row s₁ hs₁ => exact h₁.set hp (hread.of_eq_ok hs₁)

lemma PoisedOrdered.gather {m : OrderedMerge} (h : L.PoisedOrdered as.zipIdx m ss) (g : Grouping)
    (key : GroupKey) (group : Group) :
    Leaves (fun _ t => L.PoisedOrdered as.zipIdx t.1 t.2)
      (fun _ t => List.Forall₂ L.OpenShard as.zipIdx t.2)
      (GroupedStream.gather g key group m ss) := by
  fun_induction GroupedStream.gather g key group m ss with
  | case1 group m ss e m₁ ss₁ hnext => exact (h.nextRow g.columnCount).of_eq_error hnext
  | case2 group m ss m₁ ss₁ hnext => exact (h.nextRow g.columnCount).of_eq_ok hnext
  | case3 group m ss row m₁ ss₁ hnext hsame e hfeed =>
    exact openShards ((h.nextRow g.columnCount).of_eq_ok hnext).ready
  | case4 group m ss row m₁ ss₁ hnext hsame group' hfeed ih =>
    exact ih ((h.nextRow g.columnCount).of_eq_ok hnext)
  | case5 group m ss row m₁ ss₁ hnext hsame => exact (h.nextRow g.columnCount).of_eq_ok hnext

lemma PoisedOrdered.emit {m : GroupedStream} (h : L.PoisedOrdered as.zipIdx m.inner ss)
    (row : Row) :
    Leaves (fun _ t => L.PoisedOrdered as.zipIdx t.1.inner t.2)
      (fun _ t => List.Forall₂ L.OpenShard as.zipIdx t.2) (m.emit row ss) := by
  rw [GroupedStream.emit]
  split
  · exact openShards h.ready
  next group hstart =>
    have hgather := h.gather m.grouping (m.grouping.keyOf row) group
    split
    next e inner ss₁ hs₁ => exact hgather.of_eq_error hs₁
    next group' held inner ss₁ hs₁ =>
      have h₁ := hgather.of_eq_ok hs₁
      split
      · exact openShards h₁.ready
      · exact h₁

lemma PoisedOrdered.advanceGroup {m : GroupedStream} (h : L.PoisedOrdered as.zipIdx m.inner ss) :
    Leaves (fun _ t => L.PoisedOrdered as.zipIdx t.1.inner t.2)
      (fun _ t => List.Forall₂ L.OpenShard as.zipIdx t.2) (m.advance ss) := by
  have hfirst : Leaves (fun _ t => L.PoisedOrdered as.zipIdx t.1.inner t.2)
      (fun _ t => List.Forall₂ L.OpenShard as.zipIdx t.2) (m.firstRow ss) := by
    rw [GroupedStream.firstRow]
    split
    · exact h
    · refine Leaves.map (f := fun t : OrderedMerge × List (Shard σ) =>
        ({ m with inner := t.1, started := true }, t.2)) ?_
      exact h.nextRow m.grouping.columnCount
  rw [GroupedStream.advance]
  split
  next e m₁ ss₁ hs₁ => exact hfirst.of_eq_error hs₁
  next m₁ ss₁ hs₁ =>
    have h₁ := hfirst.of_eq_ok hs₁
    exact h₁
  next row m₁ ss₁ hs₁ => exact (hfirst.of_eq_ok hs₁).emit row

/-! ### Grouped merge in memory -/

lemma ReadyShard.drain {p : ι × Nat} {s : Shard σ} (h : L.ReadyShard p s) (c : Config)
    (g : Grouping) (t : GroupTable) :
    Leaves (fun _ s' => L.ReadyShard p s') (fun _ s' => L.OpenShard p s')
      (GroupedMemory.drainShard c g t s) := by
  fun_induction GroupedMemory.drainShard c g t s with
  | case1 t s e s₁ hadv => exact h.advance.of_eq_error hadv
  | case2 t s s₁ hadv => exact (h.advance.of_eq_ok hadv).1
  | case3 t s s₁ hadv hfull => exact (h.advance.of_eq_ok hadv).1.toOpenShard
  | case4 t s s₁ hadv hfull e s₂ hread =>
    exact (((h.advance.of_eq_ok hadv).2 rfl).readColumns _).of_eq_error hread
  | case5 t s s₁ hadv hfull row s₂ hread e hadd =>
    have hrow := (((h.advance.of_eq_ok hadv).2 rfl).readColumns _).of_eq_ok hread
    exact hrow.readyShard.toOpenShard
  | case6 t s s₁ hadv hfull row s₂ hread t₁ hadd ih =>
    have hrow := (((h.advance.of_eq_ok hadv).2 rfl).readColumns _).of_eq_ok hread
    exact ih hrow.readyShard

lemma drainShards_leaves (h : List.Forall₂ L.ReadyShard ps ss) (c : Config) (g : Grouping)
    (t : GroupTable) :
    Leaves (fun _ ss' => List.Forall₂ L.ReadyShard ps ss')
      (fun _ ss' => List.Forall₂ L.OpenShard ps ss') (GroupedMemory.drainShards c g t ss) := by
  induction h generalizing t with
  | nil => exact .nil
  | @cons p s ps ss hs hss ih =>
    have hdrain := hs.drain c g t
    rw [GroupedMemory.drainShards]
    split
    next e s₁ hs₁ => exact .cons (hdrain.of_eq_error hs₁) (openShards hss)
    next t₁ s₁ hs₁ =>
      have hready := hdrain.of_eq_ok hs₁
      have hrest := ih t₁
      rcases hdrain' : GroupedMemory.drainShards c g t₁ ss with ⟨e | t₂, ss₁⟩
      · exact .cons hready.toOpenShard (hrest.of_eq_error hdrain')
      · exact .cons hready (hrest.of_eq_ok hdrain')

lemma advanceMemory_leaves (h : List.Forall₂ L.ReadyShard ps ss) (m : GroupedMemory) :
    Leaves (fun _ t => List.Forall₂ L.ReadyShard ps t.2)
      (fun _ t => List.Forall₂ L.OpenShard ps t.2) (m.advance ss) := by
  rw [GroupedMemory.advance]
  split
  · exact h
  · have hdrain := drainShards_leaves h m.config m.grouping {}
    have hsettle : Leaves (fun _ ss' => List.Forall₂ L.ReadyShard ps ss')
        (fun _ ss' => List.Forall₂ L.OpenShard ps ss') (m.drain ss) := by
      rw [GroupedMemory.drain]
      split
      next e ss₁ hs₁ => exact hdrain.of_eq_error hs₁
      next t ss₁ hs₁ =>
        have hready := hdrain.of_eq_ok hs₁
        exact leaves_of (fun _ _ => hready) fun _ _ => openShards hready
    split
    next e ss₁ hs₁ => exact hsettle.of_eq_error hs₁
    next rows ss₁ hs₁ => exact hsettle.of_eq_ok hs₁

/-! ### All strategies -/

variable (L) in
/-- A merge that may be moved to its next row. -/
def Poised (ps : List (ι × Nat)) : Merger → List (Shard σ) → Prop
  | .concat _, ss => List.Forall₂ L.ReadyShard ps ss
  | .ordered m, ss => L.PoisedOrdered ps m ss
  | .groupedStream m, ss => L.PoisedOrdered ps m.inner ss
  | .groupedMemory _, ss => List.Forall₂ L.ReadyShard ps ss

variable (L) in
/-- If the current row of a merge is that of a shard, this shard may be read. -/
def OnCurrent (ps : List (ι × Nat)) (m : Merger) (ss : List (Shard σ)) : Prop :=
  ∀ k, m.current = some (.shard k) → L.OnRowAt ps ss k

lemma Poised.ready {m : Merger} (h : L.Poised ps m ss) : List.Forall₂ L.ReadyShard ps ss := by
  cases m with
  | concat m => exact h
  | ordered m => exact PoisedOrdered.ready h
  | groupedStream m => exact PoisedOrdered.ready h
  | groupedMemory m => exact h

lemma Poised.set {m : Merger} {p : ι × Nat} {s : Shard σ} (h : L.Poised ps m ss)
    (hp : ps[k]? = some p) (hs : L.OnRowShard p s) : L.Poised ps m (ss.set k s) := by
  cases m with
  | concat m => exact forall₂_set h hp hs.readyShard
  | ordered m => exact PoisedOrdered.set h hp hs
  | groupedStream m => exact PoisedOrdered.set h hp hs
  | groupedMemory m => exact forall₂_set h hp hs.readyShard

lemma OnCurrent.set {m : Merger} {p : ι × Nat} {s : Shard σ} (h : L.OnCurrent ps m ss)
    (hp : ps[k]? = some p) (hs : L.OnRowShard p s) : L.OnCurrent ps m (ss.set k s) :=
  fun j hj => (h j hj).set hp hs

lemma poised_start (h : List.Forall₂ L.ReadyShard ps ss) (c : Config) (b : BoundShape)
    (s : Strategy) : L.Poised ps (.start c b s) ss := by
  have hordered (o : RowOrder) : L.PoisedOrdered ps (.new o) ss := by
    refine ⟨h, List.forall_mem_nil _, List.nodup_nil, ?_, fun _ => ⟨rfl, rfl⟩⟩
    rintro k ⟨⟩
  cases s with
  | concat => exact h
  | ordered => exact hordered b.orderBy
  | groupedStream => exact hordered b.groupBy
  | groupedMemory => exact h

/-- A step of a merge that is poised leaves it poised, on a row that may be read, or fails and
leaves shards that may be closed. -/
theorem Poised.advance {m : Merger} (h : L.Poised as.zipIdx m ss) :
    Leaves (fun b t => L.Poised as.zipIdx t.1 t.2 ∧ (b = true → L.OnCurrent as.zipIdx t.1 t.2))
      (fun _ t => List.Forall₂ L.OpenShard as.zipIdx t.2) (m.advance ss) := by
  cases m with
  | concat m =>
    refine Leaves.map (f := fun t : ConcatMerge × List (Shard σ) => (Merger.concat t.1, t.2))
      ((advanceConcat_leaves h m).imp (fun b t ht => ?_) fun _ _ ht => ht)
    refine ⟨ht.1, fun hb k hk => ?_⟩
    obtain ⟨k', hk', ⟨⟩⟩ := Option.map_eq_some_iff.mp hk
    exact ht.2 k hb hk'
  | ordered m =>
    refine Leaves.map (f := fun t : OrderedMerge × List (Shard σ) => (Merger.ordered t.1, t.2))
      ((PoisedOrdered.advance h).imp (fun b t ht => ?_) fun _ _ ht => ht)
    refine ⟨ht.1, fun hb k hk => ?_⟩
    obtain ⟨k', hk', ⟨⟩⟩ := Option.map_eq_some_iff.mp hk
    exact ht.2 k hb hk'
  | groupedStream m =>
    refine Leaves.map
      (f := fun t : GroupedStream × List (Shard σ) => (Merger.groupedStream t.1, t.2))
      ((PoisedOrdered.advanceGroup h).imp (fun b t ht => ⟨ht, fun _ k hk => ?_⟩) fun _ _ ht => ht)
    obtain ⟨r, -, ⟨⟩⟩ := Option.map_eq_some_iff.mp hk
  | groupedMemory m =>
    refine Leaves.map
      (f := fun t : GroupedMemory × List (Shard σ) => (Merger.groupedMemory t.1, t.2))
      ((advanceMemory_leaves h m).imp (fun b t ht => ⟨ht, fun _ k hk => ?_⟩) fun _ _ ht => ht)
    obtain ⟨r, -, ⟨⟩⟩ := Option.map_eq_some_iff.mp hk

end Lifecycle

end Confluence
