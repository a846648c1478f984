import Confluence.Shape.Bind
import Mathlib.Data.List.Forall2
import Mathlib.Tactic.Common

/-!
# Columns of bound shapes

Every column that a bound shape names exists: sort columns, group columns and the outputs of
aggregates lie within the width of a row.
-/

namespace Confluence

/-- What succeeds, one after the other, has succeeded at first. -/
lemma exists_of_bind_eq_ok {α β ε : Type} {x : Except ε α} {f : α → Except ε β} {b : β}
    (h : x >>= f = .ok b) : ∃ a, x = .ok a ∧ f a = .ok b := by
  cases x with
  | error e => cases h
  | ok a => exact ⟨a, rfl, h⟩

/-- What fails has failed at first, or afterwards. -/
lemma of_bind_eq_error {α β ε : Type} {x : Except ε α} {f : α → Except ε β} {e : ε}
    (h : x >>= f = .error e) : x = .error e ∨ ∃ a, x = .ok a ∧ f a = .error e := by
  cases x with
  | error e' =>
    cases h
    exact Or.inl rfl
  | ok a => exact Or.inr ⟨a, rfl, h⟩

/-- Mapping a function that can fail succeeds exactly if it succeeds for each element. -/
lemma mapM_eq_ok_iff {α β ε : Type} {f : α → Except ε β} {xs : List α} {ys : List β} :
    xs.mapM f = .ok ys ↔ List.Forall₂ (fun x y => f x = .ok y) xs ys := by
  induction xs generalizing ys with
  | nil =>
    rw [List.mapM_nil, List.forall₂_nil_left_iff]
    constructor
    · rintro ⟨⟩
      rfl
    · rintro rfl
      rfl
  | cons x xs ih =>
    rw [List.mapM_cons, List.forall₂_cons_left_iff]
    constructor
    · intro h
      obtain ⟨y, hx, h⟩ := exists_of_bind_eq_ok h
      obtain ⟨zs, hxs, h⟩ := exists_of_bind_eq_ok h
      cases h
      exact ⟨y, zs, hx, ih.mp hxs, rfl⟩
    · rintro ⟨y, zs, hx, hxs, rfl⟩
      rw [hx, ih.mpr hxs]
      rfl

lemma forall_of_forall₂ {α β : Type} {R : α → β → Prop} {P : β → Prop} {xs : List α} {ys : List β}
    (h : List.Forall₂ R xs ys) (hP : ∀ x ∈ xs, ∀ y, R x y → P y) : ∀ y ∈ ys, P y := by
  induction h with
  | nil => exact List.forall_mem_nil P
  | cons hxy _ ih =>
    rw [List.forall_mem_cons] at hP
    exact List.forall_mem_cons.mpr ⟨hP.1 _ hxy, ih hP.2⟩

/-! ### References -/

namespace LabelIndex

variable {x : LabelIndex}

lemma position?_le {label : String} {i : Nat} (h : x.position? label = some i) :
    1 ≤ i ∧ i ≤ x.size := by
  rw [position?, Option.map_eq_some_iff] at h
  obtain ⟨j, hj, rfl⟩ := h
  exact ⟨Nat.succ_pos j, (List.findIdx?_eq_some_iff_findIdx_eq.mp hj).1⟩

lemma resolve_le {ref : ColumnRef} {i : Nat} (h : x.resolve ref = .ok i) : 1 ≤ i ∧ i ≤ x.size := by
  cases ref with
  | index n =>
    rw [resolve] at h
    split at h
    next hn =>
      cases h
      exact hn
    · cases h
  | label s =>
    rw [resolve] at h
    split at h
    next j hj =>
      cases h
      exact position?_le hj
    · cases h

lemma column_lt {ref : ColumnRef} {c : Nat} (h : x.column ref = .ok c) : c < x.size := by
  rw [column] at h
  split at h
  next i hi =>
    cases h
    obtain ⟨h₁, h₂⟩ := resolve_le hi
    exact Nat.lt_of_lt_of_le (Nat.sub_one_lt (Nat.ne_of_gt h₁)) h₂
  · cases h

end LabelIndex

lemma SortTerm.column_lt_of_bind {x : LabelIndex} {t : SortTerm ColumnRef} {t' : SortTerm Nat}
    (h : t.bind x = .ok t') : t'.column < x.size := by
  rw [bind] at h
  split at h
  next c hc =>
    cases h
    exact LabelIndex.column_lt hc
  · cases h

/-- An average is fed from two columns, every other aggregate from one. -/
def BoundAggregate.Fed (a : BoundAggregate) : Prop :=
  if a.function = .avg then ∃ i n, a.inputs = [i, n] else ∃ i, a.inputs = [i]

lemma Aggregate.of_bind_eq_ok {x : LabelIndex} {a : Aggregate} {a' : BoundAggregate}
    (h : a.bind x = .ok a') : x.column a.output = .ok a'.output ∧ a'.Fed := by
  rw [bind] at h
  obtain ⟨output, ho, h⟩ := exists_of_bind_eq_ok h
  by_cases havg : a.function = .avg
  · rw [if_pos havg] at h
    obtain ⟨sum, -, h⟩ := exists_of_bind_eq_ok h
    obtain ⟨count, -, h⟩ := exists_of_bind_eq_ok h
    cases h
    refine ⟨ho, ?_⟩
    rw [BoundAggregate.Fed, if_pos havg]
    exact ⟨sum, count, rfl⟩
  · rw [if_neg havg] at h
    obtain ⟨source, -, h⟩ := exists_of_bind_eq_ok h
    cases h
    refine ⟨ho, ?_⟩
    rw [BoundAggregate.Fed, if_neg havg]
    exact ⟨source, rfl⟩

lemma Aggregate.output_lt_of_bind {x : LabelIndex} {a : Aggregate} {a' : BoundAggregate}
    (h : a.bind x = .ok a') : a'.output < x.size :=
  LabelIndex.column_lt (of_bind_eq_ok h).1

/-! ### Shapes -/

namespace BoundShape

/-- Binding a shape binds each of its aggregates and terms. -/
lemma of_bind_eq_ok {x : LabelIndex} {s : Shape} {b : BoundShape} (h : bind x s = .ok b) :
    b.columnCount = x.size ∧
      List.Forall₂ (fun a a' => a.bind x = .ok a') s.aggregates b.aggregates ∧
      List.Forall₂ (fun t t' => t.bind x = .ok t') s.groupBy b.groupBy ∧
      List.Forall₂ (fun t t' => t.bind x = .ok t') s.orderBy b.orderBy := by
  rw [bind] at h
  obtain ⟨aggregates, ha, h⟩ := exists_of_bind_eq_ok h
  obtain ⟨groupBy, hg, h⟩ := exists_of_bind_eq_ok h
  obtain ⟨orderBy, ho, h⟩ := exists_of_bind_eq_ok h
  cases h
  exact ⟨rfl, mapM_eq_ok_iff.mp ha, mapM_eq_ok_iff.mp hg, mapM_eq_ok_iff.mp ho⟩

lemma fed_of_bind {x : LabelIndex} {s : Shape} {b : BoundShape} (h : bind x s = .ok b) :
    ∀ a ∈ b.aggregates, a.Fed :=
  forall_of_forall₂ (of_bind_eq_ok h).2.1 fun _ _ _ h => (Aggregate.of_bind_eq_ok h).2

/-- A bound shape is grouped exactly if the shape is. -/
lemma isGrouped_of_bind {x : LabelIndex} {s : Shape} {b : BoundShape} (h : bind x s = .ok b) :
    b.isGrouped = s.isGrouped := by
  obtain ⟨-, ha, hg, -⟩ := of_bind_eq_ok h
  rw [isGrouped, Shape.isGrouped]
  generalize s.aggregates = as, b.aggregates = as' at ha
  generalize s.groupBy = ts, b.groupBy = ts' at hg
  cases ha <;> cases hg <;> rfl

lemma orderBy_eq_nil_iff_of_bind {x : LabelIndex} {s : Shape} {b : BoundShape}
    (h : bind x s = .ok b) : b.orderBy = [] ↔ s.orderBy = [] := by
  obtain ⟨-, -, -, ho⟩ := of_bind_eq_ok h
  generalize s.orderBy = ts, b.orderBy = ts' at ho
  cases ho <;> simp

lemma groupBy_eq_nil_iff_of_bind {x : LabelIndex} {s : Shape} {b : BoundShape}
    (h : bind x s = .ok b) : b.groupBy = [] ↔ s.groupBy = [] := by
  obtain ⟨-, -, hg, -⟩ := of_bind_eq_ok h
  generalize s.groupBy = ts, b.groupBy = ts' at hg
  cases hg <;> simp

/-- A shape without groups and order binds to any columns. -/
lemma bind_of_not_isGrouped {s : Shape} (hungrouped : s.isGrouped = false) (horder : s.orderBy = [])
    (x : LabelIndex) : bind x s = .ok ⟨x.size, [], [], []⟩ := by
  simp only [Shape.isGrouped, Bool.or_eq_false_iff, Bool.not_eq_false', List.isEmpty_iff]
    at hungrouped
  rw [bind, hungrouped.1, hungrouped.2, horder]
  rfl

/-- The columns that a bound shape names exist. -/
structure Within (b : BoundShape) (width : Nat) : Prop where
  columnCount_eq : b.columnCount = width
  groupBy_lt : ∀ t ∈ b.groupBy, t.column < width
  orderBy_lt : ∀ t ∈ b.orderBy, t.column < width
  output_lt : ∀ a ∈ b.aggregates, a.output < width

lemma within_of_bind {x : LabelIndex} {s : Shape} {b : BoundShape} (h : bind x s = .ok b) :
    b.Within x.size := by
  obtain ⟨hcount, ha, hg, ho⟩ := of_bind_eq_ok h
  exact ⟨hcount, forall_of_forall₂ hg fun _ _ _ => SortTerm.column_lt_of_bind,
    forall_of_forall₂ ho fun _ _ _ => SortTerm.column_lt_of_bind,
    forall_of_forall₂ ha fun _ _ _ => Aggregate.output_lt_of_bind⟩

lemma within_of_bind_ofLabels {labels : List String} {s : Shape} {b : BoundShape}
    (h : bind (.ofLabels labels) s = .ok b) : b.Within labels.length := by
  have hsize : (LabelIndex.ofLabels labels).size = labels.length := List.length_map _
  rw [← hsize]
  exact within_of_bind h

end BoundShape

end Confluence
