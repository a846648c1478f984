import Mathlib.Data.List.Forall2
import Mathlib.Tactic.Common

/-!
# Lists that are related one by one

Looking up and replacing the members of lists whose members are related in pairs, and carrying over
what holds of any two of them.
-/

namespace Confluence

variable {α β : Type} {R : α → β → Prop} {as : List α} {bs : List β} {k : Nat}

lemma exists_of_forall₂_getElem? (h : List.Forall₂ R as bs) {b : β} (hb : bs[k]? = some b) :
    ∃ a, as[k]? = some a ∧ R a b := by
  induction h generalizing k with
  | nil => simp at hb
  | @cons a b' as bs hr _ ih =>
    cases k with
    | zero =>
      simp only [List.getElem?_cons_zero, Option.some.injEq] at hb
      subst hb
      exact ⟨a, rfl, hr⟩
    | succ k => exact ih hb

lemma forall₂_getElem? (h : List.Forall₂ R as bs) (k : Nat) :
    as[k]? = none ∧ bs[k]? = none ∨ ∃ a b, as[k]? = some a ∧ bs[k]? = some b ∧ R a b := by
  cases hb : bs[k]? with
  | none =>
    left
    rw [List.getElem?_eq_none_iff] at hb ⊢
    exact ⟨h.length_eq ▸ hb, rfl⟩
  | some b =>
    right
    obtain ⟨a, ha, hr⟩ := exists_of_forall₂_getElem? h hb
    exact ⟨a, b, ha, rfl, hr⟩

lemma forall₂_set_set (h : List.Forall₂ R as bs) {a : α} {b : β} (k : Nat) (hr : R a b) :
    List.Forall₂ R (as.set k a) (bs.set k b) := by
  induction h generalizing k with
  | nil => exact .nil
  | cons hr' hrest ih =>
    cases k with
    | zero => exact .cons hr hrest
    | succ k => exact .cons hr' (ih k)

lemma forall₂_set (h : List.Forall₂ R as bs) {a : α} {b : β} (ha : as[k]? = some a)
    (hr : R a b) : List.Forall₂ R as (bs.set k b) := by
  have hset := forall₂_set_set h k hr
  obtain ⟨hk, rfl⟩ := List.getElem?_eq_some_iff.mp ha
  rwa [List.set_getElem_self] at hset

lemma exists_mem_of_forall₂ (h : List.Forall₂ R as bs) {b : β} (hb : b ∈ bs) : ∃ a ∈ as, R a b := by
  obtain ⟨k, hk⟩ := List.mem_iff_getElem?.mp hb
  obtain ⟨a, ha, hr⟩ := exists_of_forall₂_getElem? h hk
  exact ⟨a, List.mem_of_getElem? ha, hr⟩

lemma exists_forall₂ (h : ∀ a ∈ as, ∃ b, R a b) : ∃ bs, List.Forall₂ R as bs := by
  induction as with
  | nil => exact ⟨[], .nil⟩
  | cons a as ih =>
    rw [List.forall_mem_cons] at h
    obtain ⟨b, hb⟩ := h.1
    obtain ⟨bs, hbs⟩ := ih h.2
    exact ⟨b :: bs, .cons hb hbs⟩

lemma forall₂_filter {p : α → Bool} {q : β → Bool} (h : List.Forall₂ R as bs)
    (hpq : ∀ a b, R a b → p a = q b) : List.Forall₂ R (as.filter p) (bs.filter q) := by
  induction h with
  | nil => exact .nil
  | @cons a b as bs hr _ ih =>
    rw [List.filter_cons, List.filter_cons, hpq a b hr]
    split
    · exact .cons hr ih
    · exact ih

lemma pairwise_of_forall₂ {S : α → α → Prop} {T : β → β → Prop} (h : List.Forall₂ R as bs)
    (hpairs : as.Pairwise S) (hST : ∀ {a a' b b'}, R a b → R a' b' → S a a' → T b b') :
    bs.Pairwise T := by
  induction h with
  | nil => exact List.Pairwise.nil
  | @cons a b as bs hr hrest ih =>
    rw [List.pairwise_cons] at hpairs ⊢
    refine ⟨fun b' hb' => ?_, ih hpairs.2⟩
    obtain ⟨a', ha', hr'⟩ := exists_mem_of_forall₂ hrest hb'
    exact hST hr hr' (hpairs.1 a' ha')

end Confluence
