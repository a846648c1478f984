import Confluence.Proofs.Cursor.Open
import Mathlib.Order.Bounds.Basic

/-!
# Labels that sources agree on

What a label index answers depends on its labels only up to case and quoting, and so does the
check of a source against it. So the check is symmetric, and an index answers for every source
that passes it as the source's own index does.
-/

namespace Confluence

namespace LabelIndex

variable {x y : LabelIndex}

/-- Two indexes that give the same answer to every question. -/
structure AnswersLike (x y : LabelIndex) : Prop where
  position?_eq (label : String) : x.position? label = y.position? label
  resolve_eq (ref : ColumnRef) : x.resolve ref = y.resolve ref

/-- The labels up to case and quoting. -/
def folded (x : LabelIndex) : List (List Char) := x.labels.map foldLabel

@[simp] lemma length_folded (x : LabelIndex) : x.folded.length = x.size :=
  List.length_map foldLabel

@[simp] lemma folded_ofLabels (labels : List String) :
    (ofLabels labels).folded = labels.map foldLabel := by
  simp [folded, ofLabels]

@[simp] lemma size_ofLabels (labels : List String) : (ofLabels labels).size = labels.length :=
  List.length_map unquote

lemma position?_eq_findIdx? (x : LabelIndex) (label : String) :
    x.position? label = (x.folded.findIdx? fun l => l = foldLabel label).map (· + 1) := by
  rw [position?, folded, List.findIdx?_map]
  rfl

lemma answersLike_of_folded_eq (h : x.folded = y.folded) : x.AnswersLike y := by
  have hsize : x.size = y.size := by rw [← length_folded, h, length_folded]
  have hposition (label : String) : x.position? label = y.position? label := by
    rw [position?_eq_findIdx?, h, ← position?_eq_findIdx?]
  refine ⟨hposition, ?_⟩
  intro ref
  cases ref with
  | index n => simp only [resolve, hsize]
  | label s => simp only [resolve, hposition]

/-! ### The check of a source -/

section Check

variable {σ : Type} [RowSource σ] {labels : List String} {s : σ}

lemma checkLabels_eq_ok_iff (h : Labelled labels s) (shard : Nat) {expected : List String} {i : Nat}
    (hlength : i + expected.length = labels.length) :
    checkLabels shard s (i + 1) expected = .ok () ↔
      expected.map foldLabel = (labels.drop i).map foldLabel := by
  induction expected generalizing i with
  | nil =>
    have hdrop : labels.drop i = [] := List.drop_eq_nil_iff.mpr (Nat.le_of_eq hlength.symm)
    simp [checkLabels, hdrop]
  | cons e expected ih =>
    have hi : i < labels.length := by
      rw [← hlength]
      exact Nat.lt_add_of_pos_right (Nat.succ_pos expected.length)
    have hlength' : i + 1 + expected.length = labels.length := by
      rw [← hlength, List.length_cons, Nat.add_assoc, Nat.add_comm 1]
    obtain ⟨l, hl, heq⟩ := h.exists_columnLabel hi
    have hfold : foldLabel l = foldLabel labels[i] := by
      rw [← foldLabel_unquote l, heq, foldLabel_unquote]
    simp only [checkLabels, hl, hfold, List.drop_eq_getElem_cons hi, List.map_cons,
      List.cons.injEq, ← ih hlength', eq_comm (a := foldLabel e)]
    by_cases hlabel : foldLabel labels[i] = foldLabel e
    · simp [hlabel]
    · simp [hlabel]

/-- A source passes the check exactly if its labels are those of the index up to case and
quoting. -/
lemma checkSource_eq_ok_iff (h : Labelled labels s) (x : LabelIndex) (shard : Nat) :
    x.checkSource shard s = .ok () ↔ x.folded = (ofLabels labels).folded := by
  rw [checkSource, h.columnCount_eq, folded_ofLabels]
  split
  next hsize =>
    constructor
    · intro hcheck
      cases hcheck
    · intro hfolded
      refine absurd ?_ hsize
      rw [← length_folded, hfolded, List.length_map]
  next hsize =>
    have hlength : 0 + x.labels.length = labels.length := by
      rw [Nat.zero_add]
      exact (not_not.mp hsize).symm
    exact checkLabels_eq_ok_iff h shard hlength

end Check

/-! ### Answers -/

/-- The places of a label in a list of labels, counted from 1, where case and quoting do not
matter. -/
def places (labels : List String) (label : String) : Set Nat :=
  {i | ∃ j l, i = j + 1 ∧ labels[j]? = some l ∧ foldLabel l = foldLabel label}

lemma succ_mem_places {labels : List String} {label : String} {j : Nat} :
    j + 1 ∈ places labels label ↔
      ∃ hj : j < labels.length, foldLabel labels[j] = foldLabel label := by
  constructor
  · rintro ⟨k, l, hk, hl, hfold⟩
    obtain rfl : j = k := Nat.succ_injective hk
    obtain ⟨hj, rfl⟩ := List.getElem?_eq_some_iff.mp hl
    exact ⟨hj, hfold⟩
  · rintro ⟨hj, hfold⟩
    exact ⟨j, labels[j], rfl, List.getElem?_eq_getElem hj, hfold⟩

/-- A label is found at the first of its places. -/
lemma position?_eq_some_iff {labels : List String} {label : String} {i : Nat} :
    (ofLabels labels).position? label = some i ↔ IsLeast (places labels label) i := by
  rw [position?_eq_findIdx?, folded_ofLabels, List.findIdx?_map, Option.map_eq_some_iff]
  constructor
  · rintro ⟨j, hj, rfl⟩
    obtain ⟨hlt, hat, hbefore⟩ := List.findIdx?_eq_some_iff_getElem.mp hj
    constructor
    · exact succ_mem_places.mpr ⟨hlt, by simpa using hat⟩
    · rintro k ⟨k, l, rfl, hk⟩
      obtain ⟨hklt, hkat⟩ := succ_mem_places.mp ⟨k, l, rfl, hk⟩
      apply Nat.succ_le_succ
      apply Nat.le_of_not_lt
      intro hkj
      exact hbefore k hkj (by simpa using hkat)
  · rintro ⟨⟨j, l, rfl, hj⟩, hleast⟩
    obtain ⟨hlt, hat⟩ := succ_mem_places.mp ⟨j, l, rfl, hj⟩
    refine ⟨j, List.findIdx?_eq_some_iff_getElem.mpr ⟨hlt, by simpa using hat, ?_⟩, rfl⟩
    intro k hkj hk
    have hplace : k + 1 ∈ places labels label :=
      succ_mem_places.mpr ⟨Nat.lt_trans hkj hlt, by simpa using hk⟩
    exact Nat.not_le_of_lt (Nat.succ_lt_succ hkj) (hleast hplace)

/-- What an index of labels answers is fixed by the labels up to case and quoting, and its check
passes the sources that agree with it so far: the check is symmetric, and where it passes, both
indexes answer alike. A label is found at the first of its places, and what a reference is resolved
to is a place of the result. -/
theorem answers_of_agreeing_sources (labels labels' : List String) :
    (∀ {σ τ : Type} [RowSource σ] [RowSource τ] (s : σ) (t : τ) (m n : Nat),
      Labelled labels s → Labelled labels' t →
        ((ofLabels labels).checkSource n t = .ok () ↔ (ofLabels labels').checkSource m s = .ok ()) ∧
        ((ofLabels labels).checkSource n t = .ok () →
          (ofLabels labels).AnswersLike (ofLabels labels'))) ∧
      (∀ label i, (ofLabels labels).position? label = some i ↔ IsLeast (places labels label) i) ∧
      ∀ ref i, (ofLabels labels).resolve ref = .ok i → 1 ≤ i ∧ i ≤ labels.length := by
  refine ⟨?_, fun label i => position?_eq_some_iff, ?_⟩
  · intro σ τ _ _ s t m n hs ht
    rw [checkSource_eq_ok_iff ht, checkSource_eq_ok_iff hs]
    exact ⟨eq_comm, answersLike_of_folded_eq⟩
  · intro ref i h
    have hle := resolve_le h
    rwa [size_ofLabels] at hle

/-- The case of a sigma does not matter, nor whether it is final, and the third label repeats the
first. -/
theorem answers_for_sisyphus :
    let labels := ["ID", "Σίσυφος", "`id`"]
    let labels' := ["[Id]", "ΣΊΣΥΦΟΣ", "iD"]
    (ofLabels labels).checkSource 1 (MemorySource.mk labels' [] 0 false false) = .ok () ∧
      (ofLabels labels').checkSource 0 (MemorySource.mk labels [] 0 false false) = .ok () ∧
      (ofLabels labels).AnswersLike (ofLabels labels') ∧ IsLeast (places labels "iD") 1 := by
  intro labels labels'
  obtain ⟨hagree, hplace, -⟩ := answers_of_agreeing_sources labels labels'
  have hs : Labelled labels (MemorySource.mk labels [] 0 false false) :=
    MemorySource.Fresh.labelled ⟨rfl, List.forall_mem_nil _, rfl, rfl⟩
  have ht : Labelled labels' (MemorySource.mk labels' [] 0 false false) :=
    MemorySource.Fresh.labelled ⟨rfl, List.forall_mem_nil _, rfl, rfl⟩
  obtain ⟨hsymm, halike⟩ := hagree _ _ 0 1 hs ht
  have hcheck := (checkSource_eq_ok_iff ht (ofLabels labels) 1).mpr (by decide +kernel)
  exact ⟨hcheck, hsymm.mp hcheck, halike hcheck, (hplace "iD" 1).mp (by decide +kernel)⟩

end LabelIndex

namespace Cursor

variable {σ : Type} [RowSource σ]

lemma checkSource_of_checkShards {x : LabelIndex} {shards : List (Shard σ)}
    (h : checkShards x shards = .ok ()) :
    ∀ s ∈ shards, x.checkSource s.number s.source = .ok () := by
  induction shards with
  | nil => simp
  | cons s shards ih =>
    rw [checkShards] at h
    split at h
    next => cases h
    next hs => exact List.forall_mem_cons.mpr ⟨hs, ih h⟩

/-- The labels that all shards agree on answer for each of them. -/
theorem answersLike_of_agreedLabels {x : LabelIndex} {labels : List String}
    {shards : List (Shard σ)} {s : Shard σ} (h : agreedLabels shards = .ok x) (hs : s ∈ shards)
    (hlabels : Labelled labels s.source) : x.AnswersLike (.ofLabels labels) := by
  cases shards with
  | nil => cases hs
  | cons first rest =>
    rw [agreedLabels] at h
    split at h
    next => cases h
    next y hfirst =>
      split at h
      next => cases h
      next hrest =>
        cases h
        apply LabelIndex.answersLike_of_folded_eq
        rcases List.mem_cons.mp hs with rfl | hs
        · rw [hlabels.ofSource_eq] at hfirst
          cases hfirst
          rfl
        · exact (LabelIndex.checkSource_eq_ok_iff hlabels x s.number).mp
            (checkSource_of_checkShards hrest s hs)

end Cursor

end Confluence
