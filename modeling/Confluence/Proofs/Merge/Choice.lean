import Confluence.Proofs.Group.Choice
import Confluence.Proofs.Merge.Alike
import Confluence.Proofs.Source.Shown

/-!
# Merges that probe in another way

A grouped merge in memory drains the same shards to the same rows however its table probes, if the
group columns show no cells that are rounded against each other.
-/

namespace Confluence

open RowSource

variable {σ : Type} [RowSource σ] {P : Nat → Cell → Prop} {g : Grouping} {c : Config}

/-- A merge whose table probes in another way. -/
def GroupedMemory.reprobe (m : GroupedMemory) (probing : Probing) : GroupedMemory :=
  { m with config := { m.config with probing } }

namespace GroupedMemory

/-- The key of a row that was read has cells that the group columns can show, or NULL. -/
lemma keyOf_shown {row : Row} (h : List.Forall₂ P (List.range g.columnCount) row) :
    List.Forall₂ (fun i v => P i v ∨ v = .null) g.groupColumns (g.keyOf row) := by
  apply Grouping.keyOf_cells
  intro i v hv
  obtain ⟨j, hj, hcell⟩ := exists_of_forall₂_getElem? h hv
  obtain ⟨hlt, rfl⟩ := List.getElem?_eq_some_iff.mp hj
  rwa [List.getElem_range] at hcell

/-- However a table probes, draining a shard makes the same table of it. -/
lemma drainShard_reprobe {t : GroupTable} {s : Shard σ} (hs : ShowsOnly P s.source)
    (hP : ∀ i ∈ g.groupColumns, Cell.NeverRounded (P i))
    (ht : t.KeysApart (fun i v => P i v ∨ v = .null) g) (probing : Probing) :
    drainShard { c with probing } g t s = drainShard c g t s ∧
      ∀ t', (drainShard c g t s).1 = .ok t' →
        t'.KeysApart (fun i v => P i v ∨ v = .null) g := by
  have hP' : ∀ i ∈ g.groupColumns, Cell.NeverRounded fun v => P i v ∨ v = .null := fun i hi =>
    (hP i hi).or_null
  have hread {s : Shard σ} {s' : Shard σ} {row : Row} (hs : ShowsOnly P s.source)
      (hrow : s.readRow g.columnCount = (.ok row, s')) : ShowsOnly P s'.source ∧
        List.Forall₂ (fun i v => P i v ∨ v = .null) g.groupColumns (g.keyOf row) := by
    obtain ⟨hs', hcells⟩ := Shard.showsOnly_readColumns hs (List.range g.columnCount)
    rw [Shard.readRow] at hrow
    rw [hrow] at hs' hcells
    exact ⟨hs', keyOf_shown (hcells row rfl)⟩
  fun_induction drainShard c g t s with
  | case1 t s e s₁ hadv =>
    refine ⟨?_, fun _ h => by cases h⟩
    rw [drainShard_def, hadv]
  | case2 t s s₁ hadv =>
    refine ⟨?_, fun _ h => by cases h; exact ht⟩
    rw [drainShard_def, hadv]
  | case3 t s s₁ hadv hfull =>
    refine ⟨?_, fun _ h => by cases h⟩
    rw [drainShard_def, hadv]
    exact if_pos hfull
  | case4 t s s₁ hadv hfull e s₂ hrow =>
    refine ⟨?_, fun _ h => by cases h⟩
    rw [drainShard_def, hadv]
    simp only [hrow]
    exact if_neg hfull
  | case5 t s s₁ hadv hfull row s₂ hrow e hadd =>
    have hs₁ := Shard.showsOnly_advance hs
    rw [hadv] at hs₁
    rw [ht.add_eq hP' (hread hs₁ hrow).2 _ probing] at hadd
    refine ⟨?_, fun _ h => by cases h⟩
    rw [drainShard_def, hadv]
    simp only [hrow, hadd]
    exact if_neg hfull
  | case6 t s s₁ hadv hfull row s₂ hrow t₁ hadd ih =>
    have hs₁ := Shard.showsOnly_advance hs
    rw [hadv] at hs₁
    obtain ⟨hs₂, hkey⟩ := hread hs₁ hrow
    obtain ⟨hrest, hapart⟩ := ih hs₂ (ht.add hkey hadd)
    rw [ht.add_eq hP' hkey _ probing] at hadd
    refine ⟨?_, hapart⟩
    rw [drainShard_def, hadv]
    simp only [hrow, hadd, hrest]
    exact if_neg hfull

lemma drainShards_reprobe {t : GroupTable} {ss : List (Shard σ)}
    (hss : ∀ s ∈ ss, ShowsOnly P s.source)
    (hP : ∀ i ∈ g.groupColumns, Cell.NeverRounded (P i))
    (ht : t.KeysApart (fun i v => P i v ∨ v = .null) g) (probing : Probing) :
    drainShards { c with probing } g t ss = drainShards c g t ss := by
  induction ss generalizing t with
  | nil => rfl
  | cons s ss ih =>
    rw [List.forall_mem_cons] at hss
    obtain ⟨hdrain, hapart⟩ := drainShard_reprobe (c := c) hss.1 hP ht probing
    rw [drainShards, drainShards, hdrain]
    rcases hs : drainShard c g t s with ⟨e | t₁, s₁⟩
    · rfl
    · simp only [ih hss.2 (hapart t₁ (by rw [hs]))]

/-- However its table probes, a merge drains its shards to the same rows. -/
lemma drain_reprobe {m : GroupedMemory} {ss : List (Shard σ)}
    (hss : ∀ s ∈ ss, ShowsOnly P s.source)
    (hP : ∀ i ∈ m.grouping.groupColumns, Cell.NeverRounded (P i)) (probing : Probing) :
    (m.reprobe probing).drain ss = m.drain ss := by
  have hempty : ({} : GroupTable).KeysApart (fun i v => P i v ∨ v = .null) m.grouping :=
    GroupKey.apart_nil
  have hdrain : drainShards (m.reprobe probing).config (m.reprobe probing).grouping {} ss =
      drainShards m.config m.grouping {} ss := drainShards_reprobe hss hP hempty probing
  rw [drain, drain, hdrain]
  rfl

/-- However its table probes, a merge takes the same step, and still groups by the same columns. -/
lemma advance_reprobe {m : GroupedMemory} {ss : List (Shard σ)}
    (hss : ∀ s ∈ ss, ShowsOnly P s.source)
    (hP : ∀ i ∈ m.grouping.groupColumns, Cell.NeverRounded (P i)) (probing : Probing) :
    (m.reprobe probing).advance ss =
        ((m.advance ss).1, (m.advance ss).2.1.reprobe probing, (m.advance ss).2.2) ∧
      (m.advance ss).2.1.grouping = m.grouping := by
  have hrows : (m.reprobe probing).rows = m.rows := rfl
  rw [advance, advance, hrows, drain_reprobe hss hP]
  cases m.rows with
  | some rows => cases rows <;> exact ⟨rfl, rfl⟩
  | none =>
    rcases m.drain ss with ⟨e | rows, ss'⟩
    · exact ⟨rfl, rfl⟩
    · cases rows <;> exact ⟨rfl, rfl⟩

end GroupedMemory

namespace Merger

variable {τ : Type} [RowSource τ]

/-- Merges that differ at most in how they probe, and only where no group column shows cells that
are rounded. -/
inductive Rechosen (P : Nat → Cell → Prop) : Merger → Merger → Prop
  | same (m : Merger) : Rechosen P m m
  | reprobe {m : GroupedMemory} (hP : ∀ i ∈ m.grouping.groupColumns, Cell.NeverRounded (P i))
    (probing : Probing) : Rechosen P (.groupedMemory m) (.groupedMemory (m.reprobe probing))

instance : SameRow (Rechosen P) where
  current_eq h := by cases h <;> rfl
  strategy_eq h := by cases h <;> rfl

/-- Such merges take the same steps over shards that show what they may. -/
theorem stepAlike_rechosen {E : σ → τ → Prop} (hE : AnswerAlike fun _ => E) :
    StepAlike (Rechosen P) fun s t => E s t ∧ ShowsOnly P s := by
  have hE' := hE.showsOnly P
  intro m m' ss ts hm hss
  cases hm with
  | same m => exact (advance_alike hE' hss m).imp fun h => ⟨h.fst_eq ▸ .same _, h.snd⟩
  | @reprobe m hP probing =>
    have hshown : ∀ s ∈ ss, ShowsOnly P s.source := by
      intro s hs
      obtain ⟨t, -, hst⟩ := exists_mem_of_forall₂ hss.flip hs
      exact hst.source.2
    obtain ⟨hadvance, hgrouping⟩ := GroupedMemory.advance_reprobe hshown hP probing
    have halike := GroupedMemory.advance_alike hE' hss (m.reprobe probing)
    rw [hadvance] at halike
    rw [← hgrouping] at hP
    have hm : (m.advance ss).2.1.reprobe probing = ((m.reprobe probing).advance ts).2.1 :=
      halike.snd.fst_eq
    have hrechosen := Rechosen.reprobe hP probing
    rw [hm] at hrechosen
    exact ⟨halike.fst_eq, hrechosen, halike.snd.snd⟩

end Merger

end Confluence
