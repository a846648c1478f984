import Confluence.Proofs.Merge.Runs

/-!
# Concatenation delivers all rows

Shards that went out are not touched again, and the merge moves on to the first of the others that
has a row. So it delivers the rows of all shards, one shard after the other.
-/

namespace Confluence.ConcatMerge

variable {σ : Type} [RowSource σ] {V : SourceView σ}

/-- Shards in front of the position are passed over. -/
lemma nextShard_append (done ss : List (Shard σ)) (k : Nat) :
    nextShard done.length k (done ++ ss) =
      ((nextShard 0 (k + done.length) ss).1, done ++ (nextShard 0 (k + done.length) ss).2) := by
  induction done generalizing k with
  | nil => rfl
  | cons s done ih =>
    rw [List.length_cons, List.cons_append, nextShard, ih, Nat.add_assoc k, Nat.add_comm 1]
    rfl

/-- Without rows to come no shard has its turn. -/
lemma nextShard_of_flatten_eq_nil {k : Nat} {ss : List (Shard σ)} {queues : List (List Row)}
    (h : Queued V.Behind k ss queues) (hempty : queues.flatten = []) :
    ∃ n ss', nextShard 0 k ss = (.ok (false, n), ss') := by
  induction h with
  | nil => exact ⟨_, [], rfl⟩
  | @cons k s ss q queues hs _ ih =>
    rw [List.flatten_cons, List.append_eq_nil_iff] at hempty
    obtain ⟨rfl, hempty⟩ := hempty
    obtain ⟨current, hs⟩ := hs
    obtain ⟨s', hadv, -⟩ := hs.advance_nil
    obtain ⟨n, ss', hnext⟩ := ih hempty
    refine ⟨n, s' :: ss', ?_⟩
    rw [nextShard, hadv]
    simp only [hnext]

/-- The first shard with a row has its turn, and those behind it are as they were. -/
lemma nextShard_of_flatten_eq_cons {k : Nat} {ss : List (Shard σ)} {queues : List (List Row)}
    {r : Row} {rows : List Row} (h : Queued V.Behind k ss queues)
    (hrows : queues.flatten = r :: rows) :
    ∃ ss₁ s ss₂ q post, nextShard 0 k ss = (.ok (true, k + ss₁.length), ss₁ ++ s :: ss₂) ∧
      V.ShowsShard (k + ss₁.length) s (some r) q ∧
      Queued V.Behind (k + ss₁.length + 1) ss₂ post ∧ q ++ post.flatten = rows := by
  induction h with
  | nil => cases hrows
  | @cons k s ss q queues hs hss ih =>
    obtain ⟨current, hs⟩ := hs
    cases q with
    | nil =>
      obtain ⟨s', hadv, -⟩ := hs.advance_nil
      obtain ⟨ss₁, t, ss₂, q, post, hnext, ht, hpost, hq⟩ := ih hrows
      have hk : k + 1 + ss₁.length = k + (s' :: ss₁).length := by
        rw [List.length_cons, Nat.add_assoc, Nat.add_comm 1]
      rw [hk] at hnext ht hpost
      refine ⟨s' :: ss₁, t, ss₂, q, post, ?_, ht, hpost, hq⟩
      rw [nextShard, hadv]
      simp only [hnext]
      rfl
    | cons a q =>
      rw [List.flatten_cons, List.cons_append, List.cons.injEq] at hrows
      obtain ⟨rfl, hrows⟩ := hrows
      obtain ⟨s', hadv, hs'⟩ := hs.advance_cons
      refine ⟨[], s', ss, q, queues, ?_, hs', hss, hrows⟩
      rw [nextShard, hadv]
      rfl

/-- A concatenation delivers the rows of its shards, however often they are read. -/
theorem delivers {m : ConcatMerge} {done ss : List (Shard σ)} {queues : List (List Row)}
    {rows : List Row} (hdone : done.length = m.position)
    (hss : Queued V.Behind m.position ss queues) (hrows : queues.flatten = rows) :
    (Merger.concat m).Delivers V none rows (done ++ ss) := by
  induction rows generalizing m done ss queues with
  | nil =>
    obtain ⟨n, ss', hnext⟩ := nextShard_of_flatten_eq_nil hss hrows
    have hadv : m.advance (done ++ ss) = (.ok false, ⟨n, none⟩, done ++ ss') := by
      rw [advance, ← hdone, nextShard_append, hdone, Nat.zero_add, hnext]
    simp only [Merger.Delivers, Merger.advance, hadv]
  | cons r rows ih =>
    obtain ⟨ss₁, s, ss₂, q, post, hnext, hs, hpost, hq⟩ := nextShard_of_flatten_eq_cons hss hrows
    let k := m.position + ss₁.length
    have hlen : (done ++ ss₁).length = k := by rw [List.length_append, hdone]
    have hadv : m.advance (done ++ ss) = (.ok true, ⟨k, some k⟩, (done ++ ss₁) ++ s :: ss₂) := by
      rw [advance, ← hdone, nextShard_append, hdone, Nat.zero_add, hnext]
      simp only [List.append_assoc]
      rfl
    refine ⟨.concat ⟨k, some k⟩, (done ++ ss₁) ++ s :: ss₂, by simp only [Merger.advance, hadv], ?_⟩
    refine .shard rfl hlen hs fun s' hs' => ?_
    exact ih (m := ⟨k, some k⟩) hlen (.cons ⟨_, hs'⟩ hpost) hq

end Confluence.ConcatMerge
