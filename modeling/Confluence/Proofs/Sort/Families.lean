import Confluence.Sort.Guard
import Mathlib.Data.List.Forall2
import Mathlib.Tactic.Common

/-!
# Families that a guard accepts

A guard that has accepted the keys of some rows knows their families, and every family that it
knows is the family of one of them. So it accepts the keys of a list of rows exactly if the values
of each sort column are of one family, in whatever order the rows come.
-/

namespace Confluence

/-- Whether the values of each sort column are of one family. -/
def RowOrder.Uniform (o : RowOrder) (rows : List Row) : Prop :=
  ∀ t ∈ o, ∃ f, ∀ r ∈ rows, (r.cell t.column).isNull ∨ (r.cell t.column).family? = some f

namespace TypeGuard

variable {o : RowOrder} {g g' : TypeGuard}

/-- A guard remembers the families of a row. -/
def Knows (o : RowOrder) (g : TypeGuard) (r : Row) : Prop :=
  List.Forall₂ (fun t slot => ∀ f, (r.cell t.column).family? = some f → slot = some f) o g

/-- Every family that a guard remembers is that of a row. -/
def SeenIn (o : RowOrder) (rows : List Row) (g : TypeGuard) : Prop :=
  List.Forall₂ (fun t slot => ∀ f, slot = some f →
    ∃ r ∈ rows, (r.cell t.column).family? = some f) o g

lemma seenIn_new (o : RowOrder) (rows : List Row) : SeenIn o rows (new o) := by
  rw [SeenIn, new, List.forall₂_map_right_iff, List.forall₂_same]
  intro t _ f hf
  cases hf

/-- A key is accepted column by column. -/
lemma accept_cons_eq_ok_iff {slot : Option Family} {slots : TypeGuard} {c : Cell} {key : Row} :
    accept (slot :: slots) (c :: key) = (.ok (), g') ↔
      (∀ f seen, c.family? = some f → slot = some seen → seen = f) ∧
        ∃ slots', accept slots key = (.ok (), slots') ∧ g' = slot.or c.family? :: slots' := by
  rcases h : accept slots key with ⟨r, slots'⟩
  cases hc : c.family? with
  | none => simp [accept, hc, h, eq_comm]
  | some f =>
    cases slot with
    | none => simp [accept, hc, h, eq_comm]
    | some seen =>
      by_cases hs : seen = f
      · simp [accept, hc, h, hs, eq_comm]
      · simp [accept, hc, hs]

/-- What a guard is after it accepted the key of a row: it knows that row and all that it knew, and
learned nothing else. -/
lemma of_accept_eq_ok {r : Row} (hlen : g.length = o.length)
    (h : g.accept (o.keyOf r) = (.ok (), g')) :
    g'.Knows o r ∧ (∀ r', g.Knows o r' → g'.Knows o r') ∧
      ∀ rows, r ∈ rows → SeenIn o rows g → SeenIn o rows g' := by
  induction o generalizing g g' with
  | nil =>
    obtain rfl := List.length_eq_zero_iff.mp hlen
    cases h
    exact ⟨.nil, fun _ h => h, fun _ _ h => h⟩
  | cons t ts ih =>
    cases g with
    | nil => cases hlen
    | cons slot slots =>
      rw [RowOrder.keyOf, List.map_cons, accept_cons_eq_ok_iff] at h
      obtain ⟨hslot, slots', hslots, rfl⟩ := h
      obtain ⟨hr, hkeep, hseen⟩ := ih (Nat.succ.inj hlen) hslots
      refine ⟨.cons (fun f hf => ?_) hr, fun r' h => ?_, fun rows hrow h => ?_⟩
      · cases slot with
        | none => exact hf
        | some seen => rw [hslot f seen hf rfl, Option.some_or]
      · rw [Knows, List.forall₂_cons] at h
        refine .cons (fun f hf => ?_) (hkeep r' h.2)
        rw [h.1 f hf, Option.some_or]
      · rw [SeenIn, List.forall₂_cons] at h
        refine .cons (fun f hf => ?_) (hseen rows hrow h.2)
        rcases Option.or_eq_some_iff.mp hf with hs | ⟨-, hs⟩
        · exact h.1 f hs
        · exact ⟨r, hrow, hs⟩

/-- A guard that has seen only rows of uniform columns accepts each of them. -/
lemma exists_accept_eq_ok {rows : List Row} {r : Row} (hu : o.Uniform rows)
    (hg : SeenIn o rows g) (hr : r ∈ rows) : ∃ g', g.accept (o.keyOf r) = (.ok (), g') := by
  induction o generalizing g with
  | nil =>
    cases hg
    exact ⟨[], rfl⟩
  | cons t ts ih =>
    cases hg with
    | @cons _ slot _ slots hslot hslots =>
      rw [RowOrder.Uniform, List.forall_mem_cons] at hu
      obtain ⟨⟨f, hf⟩, hu⟩ := hu
      obtain ⟨slots', h⟩ := ih hu hslots
      have hval {r : Row} (hr : r ∈ rows) {f' : Family}
          (hf' : (r.cell t.column).family? = some f') : f' = f := by
        rcases hf r hr with hn | hs
        · rw [Cell.isNull_eq_true_iff, ← Cell.family?_eq_none_iff, hf'] at hn
          cases hn
        · exact Option.some.inj (hf'.symm.trans hs)
      refine ⟨_, accept_cons_eq_ok_iff.mpr ⟨fun f' seen hc hs => ?_, slots', h, rfl⟩⟩
      obtain ⟨r', hr', hseen⟩ := hslot seen hs
      rw [hval hr' hseen, hval hr hc]

/-- Rows that one guard knows have uniform columns. -/
lemma uniform_of_knows {rows : List Row} (h : ∀ r ∈ rows, g.Knows o r) : o.Uniform rows := by
  induction o generalizing g with
  | nil => exact List.forall_mem_nil _
  | cons t ts ih =>
    cases g with
    | nil =>
      intro t _
      refine ⟨.boolean, fun r hr => ?_⟩
      cases h r hr
    | cons slot slots =>
      have h₁ (r : Row) (hr : r ∈ rows) (f : Family) (hf : (r.cell t.column).family? = some f) :
          slot = some f := by
        have := h r hr
        rw [Knows, List.forall₂_cons] at this
        exact this.1 f hf
      have h₂ (r : Row) (hr : r ∈ rows) : Knows ts slots r := by
        have := h r hr
        rw [Knows, List.forall₂_cons] at this
        exact this.2
      refine List.forall_mem_cons.mpr ⟨⟨slot.getD .boolean, fun r hr => ?_⟩, ih h₂⟩
      cases hc : (r.cell t.column).family? with
      | none => exact Or.inl (Cell.isNull_eq_true_iff.mpr (Cell.family?_eq_none_iff.mp hc))
      | some f => exact Or.inr (by rw [h₁ r hr f hc, Option.getD_some])

lemma length_eq_of_seenIn {rows : List Row} (h : SeenIn o rows g) : g.length = o.length :=
  h.length_eq.symm

/-- A fresh guard accepts the keys of rows exactly if their columns are uniform. -/
lemma acceptAll_keyOf_eq_ok_iff (o : RowOrder) (rows : List Row) :
    ((new o).acceptAll (rows.map o.keyOf)).1 = .ok () ↔ o.Uniform rows := by
  constructor
  · intro h
    have hknows {todo : List Row} {g : TypeGuard} (hlen : g.length = o.length)
        (h : (g.acceptAll (todo.map o.keyOf)).1 = .ok ()) :
        ∃ g' : TypeGuard, (∀ r, g.Knows o r → g'.Knows o r) ∧ ∀ r ∈ todo, g'.Knows o r := by
      induction todo generalizing g with
      | nil => exact ⟨g, fun _ h => h, List.forall_mem_nil _⟩
      | cons r todo ih =>
        rw [List.map_cons, acceptAll] at h
        rcases ha : g.accept (o.keyOf r) with ⟨_ | _, g₁⟩
        · rw [ha] at h
          cases h
        · rw [ha] at h
          obtain ⟨hr, hkeep, -⟩ := of_accept_eq_ok hlen ha
          obtain ⟨g', hkeep', htodo⟩ := ih (hr.length_eq.symm) h
          exact ⟨g', fun r' h => hkeep' r' (hkeep r' h),
            List.forall_mem_cons.mpr ⟨hkeep' r hr, htodo⟩⟩
    obtain ⟨g', -, hall⟩ := hknows (length_eq_of_seenIn (seenIn_new o [])) h
    exact uniform_of_knows hall
  · intro hu
    have hok {todo : List Row} {g : TypeGuard} (hsub : ∀ r ∈ todo, r ∈ rows)
        (hg : SeenIn o rows g) : (g.acceptAll (todo.map o.keyOf)).1 = .ok () := by
      induction todo generalizing g with
      | nil => rfl
      | cons r todo ih =>
        rw [List.forall_mem_cons] at hsub
        obtain ⟨g₁, ha⟩ := exists_accept_eq_ok hu hg hsub.1
        rw [List.map_cons, acceptAll, ha]
        exact ih hsub.2 ((of_accept_eq_ok (length_eq_of_seenIn hg) ha).2.2 rows hsub.1 hg)
    exact hok (fun _ h => h) (seenIn_new o rows)

end TypeGuard

end Confluence
