import Confluence.Source.Memory
import Confluence.Source.Shard
import Mathlib.Data.List.Basic
import Mathlib.Data.List.GetD
import Mathlib.Tactic.Common

/-!
# Views of sources

A view of a source says which row it shows and which rows it has to come. A source with a view
never fails: it moves through its rows one by one, reading leaves it where it is, and at the end of
its rows it stays there. Sources in memory have such a view, and so have the shards around them.
-/

namespace Confluence

/-- A copy of all cells of a row is that row. -/
lemma Row.map_cell_range {r : Row} {n : Nat} (h : r.length = n) :
    (List.range n).map r.cell = r := by
  subst h
  apply List.ext_getElem
  · simp
  · intro i hi hi'
    simp only [List.getElem_map, List.getElem_range, Row.cell]
    exact List.getD_eq_getElem r .null hi'

/-- A way to look at sources of one kind, with the laws that it promises. -/
structure SourceView (σ : Type) [RowSource σ] where
  /-- The number of cells in a row. -/
  width : Nat
  /-- The source is on a row, or on none, and has a list of rows to come. -/
  Shows : σ → Option Row → List Row → Prop
  length_eq {s : σ} {r : Row} {rest : List Row} : Shows s (some r) rest → r.length = width
  advance_nil {s : σ} {current : Option Row} : Shows s current [] →
    ∃ s', RowSource.advance s = (.ok false, s') ∧ Shows s' none []
  advance_cons {s : σ} {current : Option Row} {r : Row} {rest : List Row} :
    Shows s current (r :: rest) →
      ∃ s', RowSource.advance s = (.ok true, s') ∧ Shows s' (some r) rest
  value {s : σ} {r : Row} {rest : List Row} {i : Nat} : Shows s (some r) rest → i < width →
    ∃ s', RowSource.value s (i + 1) .any = (.ok (r.cell i), s') ∧ Shows s' (some r) rest

/-- A view that shows no source. -/
def SourceView.hidden {σ : Type} [RowSource σ] (width : Nat) : SourceView σ where
  width := width
  Shows _ _ _ := False
  length_eq := False.elim
  advance_nil := False.elim
  advance_cons := False.elim
  value h := h.elim

/-! ### Sources in memory -/

/-- A source in memory whose rows have one cell for each label, none of them read yet. -/
structure MemorySource.Fresh (labels : List String) (s : MemorySource) : Prop where
  labels_eq : s.labels = labels
  full : ∀ r ∈ s.rows, r.length = labels.length
  position_eq : s.position = 0
  not_closed : s.closed = false

/-- The rows in memory behind the position of a source are those to come. -/
def MemorySource.view (width : Nat) : SourceView MemorySource where
  width := width
  Shows s current rest :=
    s.closed = false ∧ (∀ r ∈ s.rows, r.length = width) ∧ s.rows.drop s.position = rest ∧
      ∀ r, current = some r → ∃ p, s.position = p + 1 ∧ s.rows[p]? = some r
  length_eq {s r rest} h := by
    obtain ⟨-, hfull, -, hcur⟩ := h
    obtain ⟨p, -, hp⟩ := hcur r rfl
    exact hfull r (List.mem_of_getElem? hp)
  advance_nil {s current} h := by
    obtain ⟨hclosed, hfull, hrest, -⟩ := h
    have hlen : ¬ s.position < s.rows.length := Nat.not_lt.mpr (List.drop_eq_nil_iff.mp hrest)
    refine ⟨{ s with position := s.rows.length + 1 }, ?_, hclosed, hfull, ?_, ?_⟩
    · simp [RowSource.advance, advance, hclosed, hlen]
    · simp
    · rintro r ⟨⟩
  advance_cons {s current r rest} h := by
    obtain ⟨hclosed, hfull, hrest, -⟩ := h
    have hlen : s.position < s.rows.length := by
      rw [← Nat.not_le, ← List.drop_eq_nil_iff, hrest]
      exact List.cons_ne_nil _ _
    rw [List.drop_eq_getElem_cons hlen, List.cons.injEq] at hrest
    refine ⟨{ s with position := s.position + 1 }, ?_, hclosed, hfull, hrest.2, ?_⟩
    · simp [RowSource.advance, advance, hclosed, hlen]
    · rintro r' ⟨⟩
      exact ⟨s.position, rfl, by rw [List.getElem?_eq_getElem hlen, hrest.1]⟩
  value {s r rest i} h hi := by
    obtain ⟨hclosed, hfull, hrest, hcur⟩ := h
    obtain ⟨p, hp, hr⟩ := hcur r rfl
    have hlen : i < r.length := by rwa [hfull r (List.mem_of_getElem? hr)]
    have hread : s.read (i + 1) .any = .ok (r.cell i) := by
      simp [read, MemorySource.current, hclosed, hp, hr, hlen, Row.cell]
    refine ⟨{ s with lastNull := (r.cell i).isNull }, ?_, hclosed, hfull, hrest, hcur⟩
    simp [RowSource.value, value, hread]

lemma MemorySource.Fresh.shows {labels : List String} {s : MemorySource} (h : s.Fresh labels) :
    (MemorySource.view labels.length).Shows s none s.rows := by
  refine ⟨h.not_closed, h.full, ?_, ?_⟩
  · rw [h.position_eq, List.drop_zero]
  · rintro r ⟨⟩

/-! ### Shards -/

namespace SourceView

variable {σ : Type} [RowSource σ] (V : SourceView σ)

/-- Shard number `k` is open, is on a row or on none, and has a list of rows to come. -/
structure ShowsShard (k : Nat) (s : Shard σ) (current : Option Row) (rest : List Row) : Prop where
  number_eq : s.number = k
  not_closed : s.closed = false
  shows : (s.exhausted = false ∧ V.Shows s.source current rest) ∨
    (s.exhausted = true ∧ current = none ∧ rest = [])

/-- A shard that has yet to be moved to the front of its queue. -/
def Behind (k : Nat) (s : Shard σ) (q : List Row) : Prop := ∃ current, V.ShowsShard k s current q

/-- A shard that sits on the front of its queue. -/
def AtFront (k : Nat) (s : Shard σ) (q : List Row) : Prop := V.ShowsShard k s q.head? q.tail

variable {V} {k : Nat} {s : Shard σ} {current : Option Row} {r : Row} {rest : List Row}

namespace ShowsShard

lemma length_eq (h : V.ShowsShard k s (some r) rest) : r.length = V.width := by
  rcases h.shows with ⟨-, hs⟩ | ⟨-, hs, -⟩
  · exact V.length_eq hs
  · cases hs

lemma advance_nil (h : V.ShowsShard k s current []) :
    ∃ s', s.advance = (.ok false, s') ∧ V.ShowsShard k s' none [] := by
  rcases h.shows with ⟨hex, hs⟩ | ⟨hex, -, -⟩
  · obtain ⟨source, hadv, hs'⟩ := V.advance_nil hs
    refine ⟨{ s with source, exhausted := true }, ?_, h.number_eq, h.not_closed, ?_⟩
    · simp [Shard.advance, hex, h.not_closed, hadv]
    · exact Or.inr ⟨rfl, rfl, rfl⟩
  · refine ⟨s, ?_, h.number_eq, h.not_closed, Or.inr ⟨hex, rfl, rfl⟩⟩
    simp [Shard.advance, hex]

lemma advance_cons (h : V.ShowsShard k s current (r :: rest)) :
    ∃ s', s.advance = (.ok true, s') ∧ V.ShowsShard k s' (some r) rest := by
  rcases h.shows with ⟨hex, hs⟩ | ⟨-, -, hs⟩
  · obtain ⟨source, hadv, hs'⟩ := V.advance_cons hs
    refine ⟨{ s with source }, ?_, h.number_eq, h.not_closed, Or.inl ⟨hex, hs'⟩⟩
    simp [Shard.advance, hex, h.not_closed, hadv]
  · cases hs

lemma value (h : V.ShowsShard k s (some r) rest) {i : Nat} (hi : i < V.width) :
    ∃ s', s.value (i + 1) .any = (.ok (r.cell i), s') ∧ V.ShowsShard k s' (some r) rest := by
  rcases h.shows with ⟨hex, hs⟩ | ⟨-, hs, -⟩
  · obtain ⟨source, hval, hs'⟩ := V.value hs hi
    refine ⟨{ s with source }, ?_, h.number_eq, h.not_closed, Or.inl ⟨hex, hs'⟩⟩
    simp [Shard.value, hval]
  · cases hs

lemma readColumns (h : V.ShowsShard k s (some r) rest) {columns : List Nat}
    (hc : ∀ c ∈ columns, c < V.width) :
    ∃ s', s.readColumns columns = (.ok (columns.map r.cell), s') ∧
      V.ShowsShard k s' (some r) rest := by
  induction columns generalizing s with
  | nil => exact ⟨s, rfl, h⟩
  | cons c columns ih =>
    rw [List.forall_mem_cons] at hc
    obtain ⟨s₁, hval, h₁⟩ := h.value hc.1
    obtain ⟨s₂, hread, h₂⟩ := ih h₁ hc.2
    refine ⟨s₂, ?_, h₂⟩
    simp [Shard.readColumns, hval, hread]

lemma readRow (h : V.ShowsShard k s (some r) rest) :
    ∃ s', s.readRow V.width = (.ok r, s') ∧ V.ShowsShard k s' (some r) rest := by
  obtain ⟨s', hread, hs'⟩ := h.readColumns fun c (hc : c ∈ List.range V.width) =>
    List.mem_range.mp hc
  rw [Row.map_cell_range h.length_eq] at hread
  exact ⟨s', hread, hs'⟩

end ShowsShard

end SourceView

/-! ### Queues -/

/-- Shards numbered from `k` stand in a relation to their queues, one by one. -/
inductive Queued {σ : Type} (R : Nat → Shard σ → List Row → Prop) :
    Nat → List (Shard σ) → List (List Row) → Prop
  | nil {k} : Queued R k [] []
  | cons {k s ss q queues} : R k s q → Queued R (k + 1) ss queues →
      Queued R k (s :: ss) (q :: queues)

lemma Queued.append {σ : Type} {R : Nat → Shard σ → List Row → Prop} {k : Nat}
    {ss₁ ss₂ : List (Shard σ)} {pre post : List (List Row)} (h₁ : Queued R k ss₁ pre)
    (h₂ : Queued R (k + pre.length) ss₂ post) :
    Queued R k (ss₁ ++ ss₂) (pre ++ post) := by
  induction h₁ with
  | nil => exact h₂
  | @cons k s ss q queues hs _ ih =>
    refine .cons hs (ih ?_)
    rwa [List.length_cons, Nat.add_comm queues.length, ← Nat.add_assoc] at h₂

lemma Queued.exists_of_append {σ : Type} {R : Nat → Shard σ → List Row → Prop} {k : Nat}
    {ss : List (Shard σ)} {pre post : List (List Row)} (h : Queued R k ss (pre ++ post)) :
    ∃ ss₁ ss₂, ss = ss₁ ++ ss₂ ∧ ss₁.length = pre.length ∧ Queued R k ss₁ pre ∧
      Queued R (k + pre.length) ss₂ post := by
  induction pre generalizing k ss with
  | nil => exact ⟨[], ss, rfl, rfl, .nil, h⟩
  | cons q pre ih =>
    cases h with
    | @cons _ s ss _ _ hs h =>
      obtain ⟨ss₁, ss₂, rfl, hlen, h₁, h₂⟩ := ih h
      refine ⟨s :: ss₁, ss₂, rfl, congrArg Nat.succ hlen, .cons hs h₁, ?_⟩
      rwa [List.length_cons, Nat.add_comm pre.length, ← Nat.add_assoc]

end Confluence
