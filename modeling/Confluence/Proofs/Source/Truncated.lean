import Confluence.Proofs.Source.Alike

/-!
# Sources without their last rows

A source in memory that lost the rows behind its first ones cannot be told from the whole source
while it is advanced at most as often as it still has rows.
-/

namespace Confluence

namespace MemorySource

variable {c n : Nat} {s t : MemorySource}

/-- The first rows of a source. -/
def truncate (c : Nat) (s : MemorySource) : MemorySource := { s with rows := s.rows.take c }

lemma truncate_of_le (h : s.rows.length ≤ c) : s.truncate c = s := by
  rw [truncate, List.take_of_length_le h]

lemma rows_advance (s : MemorySource) : s.advance.2.rows = s.rows := by
  rw [advance]
  split
  · rfl
  · split <;> rfl

lemma advance_truncate (h : s.rows.length ≤ c ∨ s.position < c) :
    (s.truncate c).advance = (s.advance.1, s.advance.2.truncate c) := by
  by_cases hlen : s.rows.length ≤ c
  · have hlen' : s.advance.2.rows.length ≤ c := by rwa [rows_advance]
    rw [truncate_of_le hlen, truncate_of_le hlen']
  · -- neither source is at its end
    have hposition : s.position < c := h.resolve_left hlen
    have hlt : s.position < s.rows.length := Nat.lt_trans hposition (Nat.not_le.mp hlen)
    have hlt' : s.position < min c s.rows.length := Nat.lt_min.mpr ⟨hposition, hlt⟩
    cases hclosed : s.closed with
    | true => simp [advance, truncate, hclosed]
    | false => simp [advance, truncate, hclosed, hlt, hlt']

lemma read_truncate (h : s.rows.length ≤ c ∨ s.position ≤ c) (i : Nat) (t : SqlType) :
    (s.truncate c).read i t = s.read i t := by
  by_cases hlen : s.rows.length ≤ c
  · rw [truncate_of_le hlen]
  · have hposition : s.position ≤ c := h.resolve_left hlen
    have hcurrent : (s.truncate c).current = s.current := by
      simp only [current, truncate]
      cases hp : s.position with
      | zero => rfl
      | succ p =>
        rw [hp] at hposition
        simp only [List.getElem?_take_of_lt hposition]
    rw [read, read, hcurrent]

lemma value_truncate (h : s.rows.length ≤ c ∨ s.position ≤ c) (i : Nat) (t : SqlType) :
    (s.truncate c).value i t = ((s.value i t).1, (s.value i t).2.truncate c) := by
  rw [value, value, read_truncate h]
  split <;> rfl

/-- The first `c` rows of a source, of which at least `n` more are to come unless they are all
rows. -/
structure Heads (c n : Nat) (s t : MemorySource) : Prop where
  eq : t = s.truncate c
  enough : s.rows.length ≤ c ∨ s.position + n ≤ c

lemma heads_truncate (h : s.position = 0) (c : Nat) : s.Heads c c (s.truncate c) := by
  have hposition : s.position + c = c := by rw [h, Nat.zero_add]
  exact ⟨rfl, Or.inr (Nat.le_of_eq hposition)⟩

/-- The first rows of a source answer like all its rows until they are at their end. -/
theorem answerAlike_heads (c : Nat) : AnswerAlike (Heads c) where
  mono h := ⟨h.eq, h.enough.imp_right Nat.le_of_succ_le⟩
  columnCount {_ s t} h := by
    rw [h.eq]
    rfl
  columnLabel {_ s t} i h := by
    rw [h.eq]
    rfl
  advance {n s t} h := by
    have hadv : t.advance = (s.advance.1, s.advance.2.truncate c) := by
      rw [h.eq]
      apply advance_truncate
      have := h.enough
      omega
    have henough : s.advance.2.rows.length ≤ c ∨ s.advance.2.position + n ≤ c := by
      rw [rows_advance]
      have := h.enough
      rw [advance]
      split
      · simp only
        omega
      · split <;> simp only <;> omega
    exact ⟨(congrArg Prod.fst hadv).symm, congrArg Prod.snd hadv, henough⟩
  value {n s t} i ty h := by
    have hvalue : t.value i ty = ((s.value i ty).1, (s.value i ty).2.truncate c) := by
      rw [h.eq]
      apply value_truncate
      have := h.enough
      omega
    obtain ⟨b, hb⟩ := s.exists_value_eq i ty
    have henough : (s.value i ty).2.rows.length ≤ c ∨ (s.value i ty).2.position + n ≤ c := by
      rw [hb]
      exact h.enough
    exact ⟨(congrArg Prod.fst hvalue).symm, congrArg Prod.snd hvalue, henough⟩
  close {_ s t} h := by
    refine ⟨rfl, ?_, h.enough⟩
    show t.close.2 = _
    rw [h.eq]
    rfl

end MemorySource

end Confluence
