import Confluence.Proofs.Sort.Families
import Confluence.Proofs.Sort.Places

/-!
# Groups of a list of rows

A grouping divides the rows of a list into groups. On rows without floats in the group columns this
is an equivalence: each group has a first row, and the members of a group are determined by it.
-/

namespace Confluence.Grouping

variable (g : Grouping)

/-- Whether two rows fall into one group. -/
def same (a b : Row) : Bool := (g.keyOf a).same (g.keyOf b)

/-- The rows of a list that fall into the group of a row. -/
def members (rows : List Row) (f : Row) : List Row := rows.filter (g.same f)

/-- The first row of each group, in the order in which the groups are first seen. -/
def firstRows (rows : List Row) : List Row := rows.eraseDupsBy g.same

/-- Whether the cells of a row in the group columns are no floats. -/
def Exact (r : Row) : Prop := ∀ c ∈ g.groupColumns, (r.cell c).type? ≠ some .float64

instance (r : Row) : Decidable (g.Exact r) :=
  inferInstanceAs (Decidable (∀ c ∈ g.groupColumns, (r.cell c).type? ≠ some .float64))

variable {g} {a b c r f : Row} {rows : List Row}

/-! ### Rows of one group -/

lemma same_iff (ha : g.Exact a) (hb : g.Exact b) :
    g.same a b = true ↔ ∀ c ∈ g.groupColumns, (a.cell c).place = (b.cell c).place :=
  same_keyOf_iff ha hb

lemma same_self (ha : g.Exact a) : g.same a a = true := (same_iff ha ha).mpr fun _ _ => rfl

lemma same_comm (ha : g.Exact a) (hb : g.Exact b) : g.same a b = g.same b a := by
  rw [Bool.eq_iff_iff, same_iff ha hb, same_iff hb ha]
  exact forall₂_congr fun _ _ => eq_comm

lemma same_congr_left (ha : g.Exact a) (hb : g.Exact b) (hc : g.Exact c)
    (h : g.same a b = true) : g.same a c = g.same b c := by
  rw [same_iff ha hb] at h
  rw [Bool.eq_iff_iff, same_iff ha hc, same_iff hb hc]
  exact forall₂_congr fun d hd => by rw [h d hd]

lemma members_congr (ha : g.Exact a) (hb : g.Exact b) (hrows : ∀ r ∈ rows, g.Exact r)
    (h : g.same a b = true) : g.members rows a = g.members rows b :=
  List.filter_congr fun r hr => same_congr_left ha hb (hrows r hr) h

/-! ### First rows -/

lemma firstRows_cons (a : Row) (rows : List Row) :
    g.firstRows (a :: rows) = a :: g.firstRows (rows.filter fun r => g.same r a = false) :=
  List.eraseDupsBy_cons

/-- Induction that takes one group after the other out of a list. -/
@[elab_as_elim]
lemma groupInduction (g : Grouping) {P : List Row → Prop} (nil : P [])
    (cons : ∀ a rows, P (rows.filter fun r => g.same r a = false) → P (a :: rows)) (rows : List Row) :
    P rows := by
  induction hn : rows.length using Nat.strongRecOn generalizing rows with
  | ind n ih =>
    cases rows with
    | nil => exact nil
    | cons a rows =>
      refine cons a rows (ih _ ?_ _ rfl)
      rw [← hn]
      exact Nat.lt_succ_of_le (List.length_filter_le _ _)

lemma firstRows_sublist (rows : List Row) : (g.firstRows rows).Sublist rows := by
  induction rows using groupInduction g with
  | nil => exact List.Sublist.refl _
  | cons a rows ih =>
    rw [firstRows_cons]
    exact (ih.trans List.filter_sublist).cons_cons a

lemma mem_of_mem_firstRows (h : f ∈ g.firstRows rows) : f ∈ rows :=
  (firstRows_sublist rows).mem h

/-- Rows that are not of the group of `a` have the members that they have without this group. -/
lemma members_cons_of_not_same (hrows : ∀ r ∈ a :: rows, g.Exact r) (hf : g.Exact f)
    (h : g.same f a = false) :
    g.members (a :: rows) f = g.members (rows.filter fun r => g.same r a = false) f := by
  rw [List.forall_mem_cons] at hrows
  rw [members, List.filter_cons_of_neg (by simp [h]), members, List.filter_filter]
  refine List.filter_congr fun r hr => ?_
  cases hfr : g.same f r with
  | false => rfl
  | true => simp [← same_congr_left hf (hrows.2 r hr) hrows.1 hfr, h]

/-- The first rows are those that come first among the members of their groups. -/
lemma mem_firstRows_iff (hrows : ∀ r ∈ rows, g.Exact r) :
    f ∈ g.firstRows rows ↔ f ∈ rows ∧ (g.members rows f).head? = some f := by
  induction rows using groupInduction g with
  | nil => simp [firstRows]
  | cons a rows ih =>
    have hall := List.forall_mem_cons.mp hrows
    rw [firstRows_cons, List.mem_cons, ih fun r hr => hall.2 r (List.mem_of_mem_filter hr)]
    by_cases hfa : f = a
    · subst hfa
      simp [members, same_self hall.1]
    · by_cases hf : f ∈ rows
      · cases hsame : g.same f a with
        | true => simp [hfa, hf, hsame, members, Ne.symm hfa]
        | false =>
          rw [members_cons_of_not_same hrows (hall.2 f hf) hsame]
          simp [hfa, hf, hsame]
      · simp [hfa, hf]

/-- Two first rows are of different groups. -/
lemma pairwise_firstRows (hrows : ∀ r ∈ rows, g.Exact r) :
    (g.firstRows rows).Pairwise fun a b => g.same a b = false := by
  induction rows using groupInduction g with
  | nil => exact List.Pairwise.nil
  | cons a rows ih =>
    have hall := List.forall_mem_cons.mp hrows
    rw [firstRows_cons, List.pairwise_cons]
    refine ⟨fun r hr => ?_, ih fun r hr => hall.2 r (List.mem_of_mem_filter hr)⟩
    obtain ⟨hr, hsame⟩ := List.mem_filter.mp (mem_of_mem_firstRows hr)
    rw [same_comm hall.1 (hall.2 r hr)]
    exact of_decide_eq_true hsame

/-- Every row has a first row in its group. -/
lemma exists_first (hrows : ∀ r ∈ rows, g.Exact r) (hr : r ∈ rows) :
    ∃ f ∈ g.firstRows rows, g.same f r = true := by
  have hmem : r ∈ g.members rows r := List.mem_filter.mpr ⟨hr, same_self (hrows r hr)⟩
  obtain ⟨f, rest, hrest⟩ := List.exists_cons_of_ne_nil (List.ne_nil_of_mem hmem)
  have hf : f ∈ g.members rows r := by rw [hrest]; exact List.mem_cons_self
  obtain ⟨hf, hsame⟩ := List.mem_filter.mp hf
  rw [same_comm (hrows r hr) (hrows f hf)] at hsame
  refine ⟨f, (mem_firstRows_iff hrows).mpr ⟨hf, ?_⟩, hsame⟩
  rw [members_congr (hrows f hf) (hrows r hr) hrows hsame, hrest, List.head?_cons]

/-! ### One more row -/

lemma members_append (rows rows' : List Row) (f : Row) :
    g.members (rows ++ rows') f = g.members rows f ++ g.members rows' f :=
  List.filter_append ..

/-- A further row of a group that was seen before changes no first row. -/
lemma firstRows_append_of_same (hrows : ∀ r ∈ rows, g.Exact r) (hr : g.Exact r) (ha : a ∈ rows)
    (h : g.same a r = true) : g.firstRows (rows ++ [r]) = g.firstRows rows := by
  induction rows using groupInduction g with
  | nil => cases ha
  | cons x rows ih =>
    have hall := List.forall_mem_cons.mp hrows
    rw [List.cons_append, firstRows_cons, firstRows_cons, List.filter_append]
    cases hrx : g.same r x with
    | true => simp [hrx]
    | false =>
      have hax : g.same a x = false := by rwa [same_congr_left (hrows a ha) hr hall.1 h]
      have ha' : a ∈ rows := by
        rcases List.mem_cons.mp ha with rfl | ha'
        · rw [same_self hall.1] at hax
          cases hax
        · exact ha'
      have hlast : [r].filter (fun r => g.same r x = false) = [r] := by simp [hrx]
      rw [hlast, ih (fun r hr => hall.2 r (List.mem_of_mem_filter hr))]
      exact List.mem_filter.mpr ⟨ha', by simp [hax]⟩

/-- A row of a group that was not seen before is a first row. -/
lemma firstRows_append_of_not_same (hrows : ∀ r ∈ rows, g.Exact r) (hr : g.Exact r)
    (h : ∀ a ∈ rows, g.same a r = false) : g.firstRows (rows ++ [r]) = g.firstRows rows ++ [r] := by
  induction rows using groupInduction g with
  | nil => exact firstRows_cons r []
  | cons x rows ih =>
    have hall := List.forall_mem_cons.mp hrows
    have hx := List.forall_mem_cons.mp h
    have hrx : g.same r x = false := by rw [same_comm hr hall.1, hx.1]
    have hlast : [r].filter (fun r => g.same r x = false) = [r] := by simp [hrx]
    rw [List.cons_append, firstRows_cons, firstRows_cons, List.filter_append, hlast,
      ih (fun r hr => hall.2 r (List.mem_of_mem_filter hr))
        (fun a ha => hx.2 a (List.mem_of_mem_filter ha)), List.cons_append]

end Confluence.Grouping
