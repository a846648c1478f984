import Confluence.Proofs.Merge.Progress

/-!
# How far a concatenation moved its leaves

The shards in front of the current row are behind their last rows, its own shard sits on it, and
those behind it were not touched. So the number of steps that a concatenation made says of each leaf
how often it was advanced, and a leaf without rows is only passed over.
-/

namespace Confluence

/-! ### Rows and steps -/

/-- The rows of leaves, one leaf after the other, each row with the number of its leaf counted from
`k`. -/
def numberedRows (k : Nat) : List ScriptedSource → List (Row × Nat)
  | [] => []
  | a :: sources => a.memory.rows.map (·, k) ++ numberedRows (k + 1) sources

lemma map_fst_numberedRows (k : Nat) (sources : List ScriptedSource) :
    (numberedRows k sources).map (·.1) = sources.flatMap (·.memory.rows) := by
  induction sources generalizing k with
  | nil => rfl
  | cons a sources ih =>
    rw [numberedRows, List.map_append, List.map_map, ih, List.flatMap_cons]
    exact congrArg (· ++ _) (List.map_id _)

lemma number_of_mem_numberedRows {k : Nat} {sources : List ScriptedSource} {x : Row × Nat}
    (h : x ∈ numberedRows k sources) : k ≤ x.2 ∧ x.2 < k + sources.length := by
  induction sources generalizing k with
  | nil => cases h
  | cons a sources ih =>
    rw [List.length_cons]
    rcases List.mem_append.mp h with hx | hx
    · obtain ⟨r, -, rfl⟩ := List.mem_map.mp hx
      exact ⟨Nat.le_refl k, Nat.lt_add_of_pos_right (Nat.succ_pos _)⟩
    · have := ih hx
      omega

lemma getElem?_numberedRows_cons_of_lt {k n : Nat} {a : ScriptedSource}
    {sources : List ScriptedSource} {r : Row} (h : a.memory.rows[n]? = some r) :
    (numberedRows k (a :: sources))[n]? = some (r, k) := by
  obtain ⟨hlt, rfl⟩ := List.getElem?_eq_some_iff.mp h
  rw [numberedRows, List.getElem?_append_left (by rwa [List.length_map]), List.getElem?_map, h]
  rfl

lemma getElem?_numberedRows_cons_of_le {k n : Nat} {a : ScriptedSource}
    {sources : List ScriptedSource} (h : a.memory.rows.length ≤ n) :
    (numberedRows k (a :: sources))[n]? =
      (numberedRows (k + 1) sources)[n - a.memory.rows.length]? := by
  rw [numberedRows, List.getElem?_append_right (by rwa [List.length_map]), List.length_map]

/-- Shards over leaves, numbered from `k`, on which `n` steps were spent: a leaf takes as many of
them as it has rows and leaves the others to the leaves behind it, and the first step of those moves
it to its end. -/
inductive Walked : Nat → Nat → List ScriptedSource → List (Shard ScriptedSource) → Prop
  | nil {k n} : Walked k n [] []
  | cons {k n a s sources ss} : Stepped a k (min n (a.memory.rows.length + 1)) s →
      Walked (k + 1) (n - a.memory.rows.length) sources ss → Walked k n (a :: sources) (s :: ss)

namespace Walked

variable {k n : Nat} {sources : List ScriptedSource} {ss ss' : List (Shard ScriptedSource)}

lemma length_eq (h : Walked k n sources ss) : ss.length = sources.length := by
  induction h with
  | nil => rfl
  | cons _ _ ih => rw [List.length_cons, List.length_cons, ih]

lemma rests (h : Walked k n sources ss)
    (hlike : List.Forall₂ (Shard.Like ScriptedSource.Rests) ss ss') : Walked k n sources ss' := by
  induction h generalizing ss' with
  | nil =>
    cases hlike
    exact .nil
  | cons hs _ ih =>
    cases hlike with
    | cons hlike hrest => exact .cons (hs.of_like hlike) (ih hrest)

/-- Leaves on which no step was spent were not moved. -/
lemma untouched (h : Walked k 0 sources ss) {i : Nat} {a : ScriptedSource}
    {s : Shard ScriptedSource} (ha : sources[i]? = some a) (hs : ss[i]? = some s) :
    Stepped a (k + i) 0 s := by
  induction sources generalizing k ss i with
  | nil => cases ha
  | cons b sources ih =>
    cases h with
    | cons hb hrest =>
      rw [Nat.zero_min] at hb
      rw [Nat.zero_sub] at hrest
      cases i with
      | zero =>
        cases ha
        cases hs
        exact hb
      | succ i =>
        rw [Nat.add_comm i, ← Nat.add_assoc]
        exact ih hrest ha hs

lemma of_getElem? (h : Walked k n sources ss) {i : Nat} {s : Shard ScriptedSource}
    (hs : ss[i]? = some s) : ∃ a p, sources[i]? = some a ∧ Stepped a (k + i) p s := by
  induction h generalizing i with
  | nil => cases hs
  | @cons k n a s' sources ss hs' _ ih =>
    cases i with
    | zero =>
      cases hs
      exact ⟨a, _, rfl, hs'⟩
    | succ i =>
      obtain ⟨b, p, hb, hstepped⟩ := ih hs
      rw [Nat.add_assoc, Nat.add_comm 1] at hstepped
      exact ⟨b, p, hb, hstepped⟩

/-- Where the shards are once a step led to a row: those in front of it are behind their last rows,
its own shard sits on it, and those behind it were not moved. -/
lemma around (h : Walked k (n + 1) sources ss) {x : Row × Nat}
    (hx : (numberedRows k sources)[n]? = some x) {i : Nat} {a : ScriptedSource}
    {s : Shard ScriptedSource} (ha : sources[i]? = some a) (hs : ss[i]? = some s) :
    (k + i < x.2 ∧ Stepped a (k + i) (a.memory.rows.length + 1) s) ∨
      (k + i = x.2 ∧ ∃ p, Stepped a (k + i) (p + 1) s ∧ a.memory.rows[p]? = some x.1) ∨
      (x.2 < k + i ∧ Stepped a (k + i) 0 s) := by
  induction sources generalizing k n ss i with
  | nil => cases ha
  | cons b sources ih =>
    cases h with
    | cons hb hrest =>
      rcases Nat.lt_or_ge n b.memory.rows.length with hlt | hle
      · have hr := List.getElem?_eq_getElem hlt
        obtain rfl := Option.some.inj (hx.symm.trans (getElem?_numberedRows_cons_of_lt hr))
        rw [Nat.min_eq_left (Nat.succ_le_succ (Nat.le_of_lt hlt))] at hb
        rw [Nat.sub_eq_zero_of_le hlt] at hrest
        cases i with
        | zero =>
          cases ha
          cases hs
          exact Or.inr (Or.inl ⟨rfl, n, hb, hr⟩)
        | succ i =>
          rw [Nat.add_comm i, ← Nat.add_assoc]
          exact Or.inr (Or.inr ⟨by dsimp only; omega, hrest.untouched ha hs⟩)
      · rw [getElem?_numberedRows_cons_of_le hle] at hx
        rw [Nat.min_eq_right (Nat.succ_le_succ hle)] at hb
        rw [Nat.succ_sub hle] at hrest
        cases i with
        | zero =>
          cases ha
          cases hs
          have hnumber := (number_of_mem_numberedRows (List.mem_of_getElem? hx)).1
          exact Or.inl ⟨hnumber, hb⟩
        | succ i =>
          rw [Nat.add_comm i, ← Nat.add_assoc]
          exact ih hrest hx ha hs

/-- One more step: the first shard with a row moves to it, and the others in front of it to their
ends. -/
lemma nextShard (hscript : ∀ a ∈ sources, a.script.LetsAdvance) (h : Walked k n sources ss) :
    ∃ b j ss', ConcatMerge.nextShard 0 k ss = (.ok (b, k + j), ss') ∧
      Walked k (n + 1) sources ss' ∧ (∀ s ∈ ss'.take j, s.exhausted = true) ∧
      (numberedRows k sources)[n]?.map (·.2) = if b then some (k + j) else none := by
  induction h with
  | nil => exact ⟨false, 0, [], rfl, .nil, List.forall_mem_nil _, rfl⟩
  | @cons k n a s sources ss hs hss ih =>
    rw [List.forall_mem_cons] at hscript
    rcases Nat.lt_or_ge n a.memory.rows.length with hlt | hle
    · rw [Nat.min_eq_left (Nat.le_succ_of_le (Nat.le_of_lt hlt))] at hs
      rw [Nat.sub_eq_zero_of_le (Nat.le_of_lt hlt)] at hss
      obtain ⟨s', hadvance, hs'⟩ := hs.advance_row hscript.1 hlt
      refine ⟨true, 0, s' :: ss, ?_, .cons ?_ ?_, List.forall_mem_nil _, ?_⟩
      · rw [ConcatMerge.nextShard, hadvance]
        rfl
      · rwa [Nat.min_eq_left (Nat.succ_le_succ (Nat.le_of_lt hlt))]
      · rwa [Nat.sub_eq_zero_of_le hlt]
      · rw [getElem?_numberedRows_cons_of_lt (List.getElem?_eq_getElem hlt)]
        rfl
    · obtain ⟨s', hadvance, hs'⟩ := hs.advance_end hscript.1 hle
      obtain ⟨b, j, ss', hnext, hss', htake, hrow⟩ := ih hscript.2
      have hj : k + 1 + j = k + (j + 1) := by rw [Nat.add_assoc, Nat.add_comm 1]
      rw [hj] at hnext hrow
      refine ⟨b, j + 1, s' :: ss', ?_, .cons ?_ ?_, ?_, ?_⟩
      · rw [ConcatMerge.nextShard, hadvance]
        simp only [hnext]
      · rwa [Nat.min_eq_right (Nat.succ_le_succ hle)]
      · rwa [Nat.succ_sub hle]
      · rw [List.take_succ_cons, List.forall_mem_cons]
        exact ⟨hs'.exhausted_of_behind, htake⟩
      · rwa [getElem?_numberedRows_cons_of_le hle]

end Walked

/-! ### The merge -/

namespace ConcatMerge

/-- Shards that are at their ends need not be passed over. -/
lemma nextShard_of_exhausted {σ : Type} [RowSource σ] {p : Nat} {ss : List (Shard σ)}
    (h : ∀ s ∈ ss.take p, s.exhausted = true) (k : Nat) : nextShard p k ss = nextShard 0 k ss := by
  induction ss generalizing p k with
  | nil => rw [nextShard, nextShard]
  | cons s ss ih =>
    cases p with
    | zero => rfl
    | succ p =>
      rw [List.take_succ_cons, List.forall_mem_cons] at h
      have hadvance : s.advance = (.ok false, s) := by
        rw [Shard.advance, h.1, Bool.true_or, if_pos rfl]
      simp only [nextShard, hadvance, ih h.2]

/-- A concatenation of leaves that was moved `n` times. -/
structure Pace (sources : List ScriptedSource) (n : Nat) (m : ConcatMerge)
    (ss : List (Shard ScriptedSource)) : Prop where
  walked : Walked 0 n sources ss
  passed : ∀ s ∈ ss.take m.position, s.exhausted = true
  current_eq {p : Nat} : n = p + 1 → m.current = (numberedRows 0 sources)[p]?.map (·.2)

variable {sources : List ScriptedSource} {n : Nat} {m : ConcatMerge}
  {ss ss' : List (Shard ScriptedSource)}

lemma Pace.rests (h : m.Pace sources n ss)
    (hlike : List.Forall₂ (Shard.Like ScriptedSource.Rests) ss ss') : m.Pace sources n ss' where
  walked := h.walked.rests hlike
  passed s hs := by
    obtain ⟨s₀, hs₀, hlike⟩ := exists_mem_of_forall₂ (List.forall₂_take m.position hlike) hs
    exact hlike.exhausted_eq.symm.trans (h.passed s₀ hs₀)
  current_eq := h.current_eq

/-- Moving a concatenation of leaves without failures comes to the next of all rows. -/
lemma Pace.advance (hscript : ∀ a ∈ sources, a.script.LetsAdvance) (h : m.Pace sources n ss) :
    ∃ m' ss', m.advance ss = (.ok (decide (n < (numberedRows 0 sources).length)), m', ss') ∧
      m'.Pace sources (n + 1) ss' := by
  obtain ⟨b, j, ss', hnext, hss', htake, hrow⟩ := h.walked.nextShard hscript
  rw [← nextShard_of_exhausted h.passed, Nat.zero_add] at hnext
  rw [Nat.zero_add] at hrow
  have hb : decide (n < (numberedRows 0 sources).length) = b := by
    cases b with
    | true =>
      obtain ⟨x, hx, -⟩ := Option.map_eq_some_iff.mp hrow
      exact decide_eq_true (List.getElem?_eq_some_iff.mp hx).1
    | false =>
      rw [if_neg Bool.false_ne_true, Option.map_eq_none_iff, List.getElem?_eq_none_iff] at hrow
      exact decide_eq_false (Nat.not_lt.mpr hrow)
  rw [hb, ConcatMerge.advance, hnext]
  cases b with
  | true =>
    refine ⟨⟨j, some j⟩, ss', rfl, hss', htake, fun hp => ?_⟩
    rw [← Nat.succ.inj hp, hrow, if_pos rfl]
  | false =>
    refine ⟨⟨j, none⟩, ss', rfl, hss', htake, fun hp => ?_⟩
    rw [← Nat.succ.inj hp, hrow, if_neg Bool.false_ne_true]

/-- The shard with the row that a concatenation came to last. -/
lemma Pace.exists_stepped (h : m.Pace sources (n + 1) ss) {x : Row × Nat}
    (hx : (numberedRows 0 sources)[n]? = some x) :
    m.current = some x.2 ∧
      ∃ a s p, ss[x.2]? = some s ∧ Stepped a x.2 (p + 1) s ∧ a.memory.rows[p]? = some x.1 := by
  have hlt := (number_of_mem_numberedRows (List.mem_of_getElem? hx)).2
  rw [Nat.zero_add] at hlt
  have ha := List.getElem?_eq_getElem hlt
  have hs := List.getElem?_eq_getElem (h.walked.length_eq ▸ hlt)
  refine ⟨by rw [h.current_eq rfl, hx]; rfl, ?_⟩
  have haround := h.walked.around hx ha hs
  rw [Nat.zero_add] at haround
  rcases haround with ⟨hne, -⟩ | ⟨-, p, hstepped, hr⟩ | ⟨hne, -⟩
  · exact absurd hne (Nat.lt_irrefl _)
  · exact ⟨_, _, p, hs, hstepped, hr⟩
  · exact absurd hne (Nat.lt_irrefl _)

end ConcatMerge

end Confluence
