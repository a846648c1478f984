import Confluence.Source.Shard

/-!
# Concatenation of shards

The rows of all shards, one shard after the other. A shard is not touched before those in front of
it are at their end.
-/

namespace Confluence

/-- The shard whose turn it is, and the shard with the current row. -/
structure ConcatMerge where
  position : Nat := 0
  current : Option Nat := none

namespace ConcatMerge

variable {σ : Type} [RowSource σ]

/-- The first of the shards from `position` on that has a row, counted from `number`. Without one,
the answer is the number after the last shard. -/
def nextShard : Nat → Nat → List (Shard σ) → Except Failure (Bool × Nat) × List (Shard σ)
  | _, number, [] => (.ok (false, number), [])
  | position + 1, number, s :: ss =>
    let (r, ss) := nextShard position (number + 1) ss
    (r, s :: ss)
  | 0, number, s :: ss =>
    match s.advance with
    | (.error e, s) => (.error e, s :: ss)
    | (.ok true, s) => (.ok (true, number), s :: ss)
    | (.ok false, s) =>
      let (r, ss) := nextShard 0 (number + 1) ss
      (r, s :: ss)

/-- Move to the next row. -/
def advance (m : ConcatMerge) (ss : List (Shard σ)) :
    Except Failure Bool × ConcatMerge × List (Shard σ) :=
  match nextShard m.position 0 ss with
  | (.error e, ss) => (.error e, m, ss)
  | (.ok (true, k), ss) => (.ok true, ⟨k, some k⟩, ss)
  | (.ok (false, k), ss) => (.ok false, ⟨k, none⟩, ss)

theorem totalRemaining_nextShard (p n : Nat) (ss : List (Shard σ)) :
    Shard.totalRemaining (nextShard p n ss).2 ≤ Shard.totalRemaining ss ∧
      ((∃ k, (nextShard p n ss).1 = .ok (true, k)) →
        Shard.totalRemaining (nextShard p n ss).2 < Shard.totalRemaining ss) := by
  induction ss generalizing p n with
  | nil => simp [nextShard]
  | cons s ss ih =>
    cases p with
    | succ p =>
      have := ih p (n + 1)
      simp only [nextShard, Shard.totalRemaining_cons]
      exact ⟨by omega, fun h => by have := this.2 h; omega⟩
    | zero =>
      have hle := s.remaining_advance_le
      rw [nextShard]
      split
      next e s' h =>
        simp only [h] at hle
        simp only [Shard.totalRemaining_cons]
        exact ⟨by omega, fun ⟨_, hk⟩ => by cases hk⟩
      next s' h =>
        have hlt := Shard.remaining_advance_lt h
        simp only [Shard.totalRemaining_cons]
        exact ⟨by omega, fun _ => by omega⟩
      next s' h =>
        have := ih 0 (n + 1)
        simp only [h] at hle
        simp only [Shard.totalRemaining_cons]
        exact ⟨by omega, fun hk => by have := this.2 hk; omega⟩

theorem totalRemaining_advance_le (m : ConcatMerge) (ss : List (Shard σ)) :
    Shard.totalRemaining (m.advance ss).2.2 ≤ Shard.totalRemaining ss := by
  have h := (totalRemaining_nextShard m.position 0 ss).1
  rw [advance]
  split <;> simp_all

theorem totalRemaining_advance_lt {m m' : ConcatMerge} {ss ss' : List (Shard σ)}
    (h : m.advance ss = (.ok true, m', ss')) :
    Shard.totalRemaining ss' < Shard.totalRemaining ss := by
  have hlt := (totalRemaining_nextShard m.position 0 ss).2
  rw [advance] at h
  split at h
  · cases h
  next k ss'' hk =>
    cases h
    rw [hk] at hlt
    exact hlt ⟨k, rfl⟩
  · cases h

end ConcatMerge

end Confluence
