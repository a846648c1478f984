import Confluence.Merge.Ordered
import Confluence.Proofs.Sort.Places

/-!
# Fronts of queues

The rows that wait at the front of their queues, each with the number of its queue. Their keys are
ordered as the rows themselves are. The least of some waiting heads is the front of a queue such
that all fronts before it are greater, and no front behind it is less.
-/

namespace Confluence

/-- The head of a row that waits at the front of a queue. -/
def Head.ofFront (o : RowOrder) (x : Row × Nat) : Head := ⟨o.keyOf x.1, x.2⟩

/-- The order of fronts: by their rows, and of equal rows by their queues. -/
def RowOrder.compareFronts (o : RowOrder) : Row × Nat → Row × Nat → Ordering :=
  compareLex (fun x y => o.comparePlaces x.1 y.1) (compareOn (·.2))

instance (o : RowOrder) : Std.TransCmp o.compareFronts := by
  have : Std.TransCmp fun x y : Row × Nat => o.comparePlaces x.1 y.1 :=
    { eq_swap := Std.OrientedCmp.eq_swap, isLE_trans := Std.TransCmp.isLE_trans }
  exact inferInstanceAs (Std.TransCmp (compareLex _ (compareOn fun x : Row × Nat => x.2)))

/-! ### The least head -/

namespace Head

variable {o : RowOrder}

/-- Heads are ordered as the rows that their keys were taken from, and of equal rows the one of the
earlier queue comes first. -/
lemma precedes_ofFront_eq (o : RowOrder) (x y : Row × Nat) :
    (ofFront o x).precedes o (ofFront o y) =
      ((o.compareRows x.1 y.1).then (compare x.2 y.2) == .lt) := by
  rw [precedes, ofFront, ofFront, RowOrder.compareKeys_keyOf]

lemma precedes_ofFront {x y : Row × Nat} (hx : o.Exact x.1) (hy : o.Exact y.1) :
    (ofFront o x).precedes o (ofFront o y) = true ↔ o.compareFronts x y = .lt := by
  rw [precedes_ofFront_eq, RowOrder.compareRows_eq_comparePlaces hx hy, beq_iff_eq]
  rfl

/-- The head that is taken comes before all others. -/
lemma takeLeast_map_ofFront {x : Row × Nat} {xs : List (Row × Nat)}
    (h : ∀ y ∈ x :: xs, o.Exact y.1) :
    ∃ y ys, (ofFront o x).takeLeast o (xs.map (ofFront o)) = (ofFront o y, ys.map (ofFront o)) ∧
      (y :: ys).Perm (x :: xs) ∧ ∀ z ∈ ys, (o.compareFronts y z).isLE := by
  induction xs generalizing x with
  | nil => exact ⟨x, [], rfl, List.Perm.refl _, List.forall_mem_nil _⟩
  | cons x' xs ih =>
    rw [List.forall_mem_cons, List.forall_mem_cons] at h
    obtain ⟨hx, hx', hxs⟩ := h
    rw [List.map_cons, takeLeast]
    by_cases hp : (ofFront o x').precedes o (ofFront o x) = true
    · obtain ⟨y, ys, htake, hperm, hle⟩ := ih (List.forall_mem_cons.mpr ⟨hx', hxs⟩)
      refine ⟨y, x :: ys, ?_, ?_, List.forall_mem_cons.mpr ⟨?_, hle⟩⟩
      · rw [if_pos hp, htake]
        rfl
      · exact (List.Perm.swap x y ys).trans (hperm.cons x)
      · rw [precedes_ofFront hx' hx] at hp
        rcases List.mem_cons.mp (hperm.mem_iff.mpr List.mem_cons_self) with rfl | hmem
        · rw [hp]
          rfl
        · refine Std.TransCmp.isLE_trans (hle x' hmem) ?_
          rw [hp]
          rfl
    · obtain ⟨y, ys, htake, hperm, hle⟩ := ih (List.forall_mem_cons.mpr ⟨hx, hxs⟩)
      refine ⟨y, x' :: ys, ?_, ?_, List.forall_mem_cons.mpr ⟨?_, hle⟩⟩
      · rw [if_neg hp, htake]
        rfl
      · exact ((List.Perm.swap x' y ys).trans (hperm.cons x')).trans (List.Perm.swap x x' xs)
      · rw [precedes_ofFront hx' hx] at hp
        have hxx' : (o.compareFronts x x').isLE := by
          rw [@Std.OrientedCmp.eq_swap _ o.compareFronts _ x x']
          cases hc : o.compareFronts x' x with
          | lt => exact absurd hc hp
          | eq => rfl
          | gt => rfl
        rcases List.mem_cons.mp (hperm.mem_iff.mpr List.mem_cons_self) with rfl | hmem
        · exact hxx'
        · exact Std.TransCmp.isLE_trans (hle x hmem) hxx'

end Head

/-- Keys are ordered as the rows that they are taken from, whatever columns the terms name and
however long the rows are. So among the heads of a merge one comes before another exactly if its row
comes before the other row, or if the rows tie and its queue is the earlier one; and sorting rows
sorts their keys. -/
theorem RowOrder.keys_ordered_as_rows (o : RowOrder) :
    (∀ a b, o.compareKeys (o.keyOf a) (o.keyOf b) = o.compareRows a b) ∧
      (∀ x y : Row × Nat, (Head.ofFront o x).precedes o (Head.ofFront o y) = true ↔
        o.compareRows x.1 y.1 = .lt ∨ o.compareRows x.1 y.1 = .eq ∧ x.2 < y.2) ∧
      ∀ rows, (o.sort rows).map o.keyOf =
        (rows.map o.keyOf).mergeSort fun a b => o.compareKeys a b != .gt := by
  refine ⟨o.compareKeys_keyOf, fun x y => ?_, fun rows => ?_⟩
  · rw [Head.precedes_ofFront_eq, beq_iff_eq, Ordering.then_eq_lt, Nat.compare_eq_lt]
  · exact List.map_mergeSort fun a _ b _ => by rw [o.compareKeys_keyOf]

/-! ### Queues -/

/-- The fronts of queues that are numbered from `k`. -/
def fronts (k : Nat) : List (List Row) → List (Row × Nat)
  | [] => []
  | q :: queues => q.head?.toList.map (·, k) ++ fronts (k + 1) queues

lemma fronts_append (k : Nat) (pre post : List (List Row)) :
    fronts k (pre ++ post) = fronts k pre ++ fronts (k + pre.length) post := by
  induction pre generalizing k with
  | nil => rfl
  | cons q pre ih =>
    rw [List.cons_append, fronts, fronts, ih, List.append_assoc, List.length_cons, Nat.add_right_comm,
      Nat.add_assoc]

/-- The front of a queue of a list carries the number of that queue. -/
lemma mem_fronts_iff {k : Nat} {queues : List (List Row)} {x : Row × Nat} :
    x ∈ fronts k queues ↔
      ∃ pre q post, queues = pre ++ (x.1 :: q) :: post ∧ x.2 = k + pre.length := by
  constructor
  · intro h
    induction queues generalizing k with
    | nil => cases h
    | cons p queues ih =>
      rcases List.mem_append.mp h with h | h
      · cases p with
        | nil => cases h
        | cons r q =>
          obtain rfl : x = (r, k) := by simpa using h
          exact ⟨[], q, queues, rfl, rfl⟩
      · obtain ⟨pre, q, post, rfl, hk⟩ := ih h
        refine ⟨p :: pre, q, post, rfl, ?_⟩
        rw [hk, List.length_cons, Nat.add_right_comm, Nat.add_assoc]
  · rintro ⟨pre, q, post, rfl, hk⟩
    rw [fronts_append, List.mem_append]
    right
    rw [fronts, ← hk]
    exact List.mem_append_left _ List.mem_cons_self

lemma mem_fronts_of_mem {k : Nat} {queues : List (List Row)} {q : List Row} {r : Row}
    (hq : q ∈ queues) (hr : r ∈ q.head?) :
    ∃ i, k ≤ i ∧ i < k + queues.length ∧ (r, i) ∈ fronts k queues := by
  obtain ⟨pre, post, rfl⟩ := List.append_of_mem hq
  obtain ⟨q, rfl⟩ := List.head?_eq_some_iff.mp hr
  refine ⟨k + pre.length, Nat.le_add_right _ _, ?_, mem_fronts_iff.mpr ⟨pre, q, post, rfl, rfl⟩⟩
  rw [List.length_append, List.length_cons]
  exact Nat.add_lt_add_left (Nat.lt_add_of_pos_right (Nat.succ_pos _)) k

/-- The least front divides the queues: those before it have greater fronts, and those behind it
have no lesser ones. -/
lemma exists_of_least_front {o : RowOrder} {queues : List (List Row)} {x : Row × Nat}
    {xs : List (Row × Nat)} (hperm : (x :: xs).Perm (fronts 0 queues))
    (hle : ∀ y ∈ xs, (o.compareFronts x y).isLE) :
    ∃ pre q post, queues = pre ++ (x.1 :: q) :: post ∧ x.2 = pre.length ∧
      xs.Perm (fronts 0 (pre ++ [] :: post)) ∧
      (∀ p ∈ pre, ∀ b ∈ p.head?, o.comparePlaces x.1 b = .lt) ∧
      ∀ p ∈ post, ∀ b ∈ p.head?, (o.comparePlaces x.1 b).isLE := by
  obtain ⟨pre, q, post, rfl, hx⟩ := mem_fronts_iff.mp (hperm.mem_iff.mp List.mem_cons_self)
  rw [Nat.zero_add] at hx
  have hxs : xs.Perm (fronts 0 pre ++ fronts (pre.length + 1) post) := by
    rw [fronts_append, fronts, Nat.zero_add] at hperm
    have hcons : [x] = (x.1 :: q).head?.toList.map (·, pre.length) := by simp [← hx]
    rw [← hcons] at hperm
    exact (List.perm_cons x).mp (hperm.trans List.perm_middle)
  refine ⟨pre, q, post, rfl, hx, ?_, fun p hp b hb => ?_, fun p hp b hb => ?_⟩
  · rw [fronts_append, fronts, Nat.zero_add]
    exact hxs
  · obtain ⟨i, -, hi, hmem⟩ := mem_fronts_of_mem (k := 0) hp hb
    have hxy := hle _ (hxs.mem_iff.mpr (List.mem_append_left _ hmem))
    have hgt : compareOn (·.2) x (b, i) = .gt := by
      rw [compareOn, Nat.compare_eq_gt]
      rwa [Nat.zero_add, ← hx] at hi
    rw [RowOrder.compareFronts, compareLex, hgt] at hxy
    cases hc : o.comparePlaces x.1 b with
    | lt => rfl
    | eq => simp [hc] at hxy
    | gt => simp [hc] at hxy
  · obtain ⟨i, -, -, hmem⟩ := mem_fronts_of_mem (k := pre.length + 1) hp hb
    have hxy := hle _ (hxs.mem_iff.mpr (List.mem_append_right _ hmem))
    rw [RowOrder.compareFronts, compareLex] at hxy
    cases hc : o.comparePlaces x.1 b with
    | lt => rfl
    | eq => rfl
    | gt => simp [hc] at hxy

/-- Queues without fronts are empty. -/
lemma flatten_eq_nil_of_fronts {k : Nat} {queues : List (List Row)} (h : fronts k queues = []) :
    queues.flatten = [] := by
  rw [List.flatten_eq_nil_iff]
  intro q hq
  cases q with
  | nil => rfl
  | cons r q =>
    obtain ⟨i, -, -, hi⟩ := mem_fronts_of_mem (k := k) hq (r := r) rfl
    rw [h] at hi
    cases hi

end Confluence
