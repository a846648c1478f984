import Confluence.Proofs.Group.Partials

/-!
# Sums and counts are exact

As long as some cells add up, a sum or a count takes them one by one in any order and comes to their
exact value. On the way the total may be the first cell as it is, an integer, or a decimal whose scale
grows; as soon as one of the cells is a decimal, the total is one with the largest of their scales.
-/

namespace Confluence

open Cell

namespace Cell

variable {vs ws : List Cell} {v : Cell} {d : Decimal}

/-- Whether one of some cells is a decimal. -/
def HasDecimal (vs : List Cell) : Prop := ∃ v ∈ vs, v.type? = some .decimal

lemma exists_eq_decimal (h : v.type? = some .decimal) : ∃ d, v = .decimal d := by
  cases v with
  | decimal d => exact ⟨d, rfl⟩
  | _ => cases h

lemma HasDecimal.exacts_ne_nil (h : HasDecimal vs) : exacts vs ≠ [] := by
  obtain ⟨v, hv, htype⟩ := h
  obtain ⟨d, rfl⟩ := exists_eq_decimal htype
  exact Cell.exacts_ne_nil hv rfl

lemma hasDecimal_append_singleton :
    HasDecimal (vs ++ [v]) ↔ HasDecimal vs ∨ v.type? = some .decimal := by
  simp [HasDecimal, or_and_right, exists_or]

lemma HasDecimal.perm (h : HasDecimal vs) (hperm : vs.Perm ws) : HasDecimal ws := by
  obtain ⟨v, hv, htype⟩ := h
  exact ⟨v, hperm.mem_iff.mp hv, htype⟩

lemma AddUp.perm (h : AddUp vs) (hperm : vs.Perm ws) : AddUp ws where
  isAddend v hv := h.isAddend v (hperm.mem_iff.mpr hv)
  addsUp := h.addsUp.perm (hperm.filterMap _)

end Cell

namespace Accumulator

variable {vs ws : List Cell} {v c : Cell} {t t' : Option Cell} {f : AggregateFunction}

/-! ### Adding one cell -/

/-- A total of some cells that is a decimal as soon as one of them is. -/
structure IsPlacedTotal (vs : List Cell) (t : Option Cell) : Prop where
  isTotal : IsTotal vs t
  isDecimal : HasDecimal vs → ∃ d, t = some (.decimal d)

lemma isPlacedTotal_nil : IsPlacedTotal [] none :=
  ⟨isTotal_nil, fun h => absurd rfl h.exacts_ne_nil⟩

/-- One more cell is added as long as it adds up with those before it. -/
lemma IsPlacedTotal.exists_addTo (h : IsPlacedTotal vs t) (hv : v.IsAddend)
    (hb : Decimal.AddsUp (exacts (vs ++ [v]))) :
    ∃ t', addTo t v = (.ok (), t') ∧ IsPlacedTotal (vs ++ [v]) t' := by
  obtain ⟨htotal, hdecimal⟩ := h
  obtain ⟨t', hadd, htotal'⟩ := htotal.exists_addTo hv hb
  refine ⟨t', hadd, htotal', fun hsome => ?_⟩
  rw [hasDecimal_append_singleton] at hsome
  rcases hv with rfl | hexact
  · cases hadd
    exact hdecimal (hsome.resolve_right (by simp [type?]))
  · obtain ⟨e, he⟩ := Option.isSome_iff_exists.mp hexact
    rw [addTo.eq_def, isNull_of_toDecimal? he, if_neg Bool.false_ne_true,
      if_neg (not_not.mpr (family?_of_toDecimal? he))] at hadd
    cases t with
    | none =>
      -- no cell before this one is a number
      cases hadd
      have hnil : exacts vs = [] := htotal
      obtain ⟨d, rfl⟩ := exists_eq_decimal (hsome.resolve_left fun h => h.exacts_ne_nil hnil)
      exact ⟨d, rfl⟩
    | some x =>
      obtain ⟨-, d, hd, hsum⟩ := htotal
      rw [exacts_append_singleton vs he] at hb
      obtain ⟨s, hs, -⟩ := hsum.exists_add? hb
      have hx (hvs : HasDecimal vs) : x.type? = some .decimal := by
        obtain ⟨d', hd'⟩ := hdecimal hvs
        rw [Option.some.inj hd']
        rfl
      simp only [add?_of_decimal hd he (hsome.imp_left hx), addDecimals, hs] at hadd
      cases hadd
      exact ⟨s, rfl⟩

/-! ### Adding all of them -/

/-- What a sum or a count comes to without anything to add. -/
def emptyTotal (f : AggregateFunction) : Cell := if f = .count then zeroCount else .null

/-- The accumulator of a sum or a count with a given total. -/
def ofTotal (f : AggregateFunction) (t : Option Cell) : Accumulator :=
  if f = .count then .count t else .sum t

lemma result_ofTotal (f : AggregateFunction) (t : Option Cell) :
    (ofTotal f t).result = t.getD (emptyTotal f) := by
  by_cases hf : f = .count
  · subst hf
    rfl
  · rw [ofTotal, emptyTotal, if_neg hf, if_neg hf]
    rfl

lemma new_eq_ofTotal (places : Decimal.Scale) (hf : f = .sum ∨ f = .count) :
    new f places = ofTotal f none := by
  rcases hf with rfl | rfl <;> rfl

lemma merged_ofTotal (f : AggregateFunction) (hadd : addTo t v = (.ok (), t')) :
    (ofTotal f t).merged [v] = .ok (ofTotal f t') := by
  rw [ofTotal, ofTotal]
  split
  · rw [merged, merge, hadd]
  · rw [merged, merge, hadd]

/-- Cells that add up are added one by one, none of them is refused. -/
lemma exists_total (places : Decimal.Scale) (hf : f = .sum ∨ f = .count) (h : AddUp vs) :
    ∃ t, mergeAll (.new f places) (vs.map fun v => [v]) = .ok (ofTotal f t) ∧
      IsPlacedTotal vs t := by
  induction vs using List.reverseRecOn with
  | nil => exact ⟨none, by rw [new_eq_ofTotal places hf]; rfl, isPlacedTotal_nil⟩
  | append_singleton vs v ih =>
    obtain ⟨t, hmerge, ht⟩ := ih (h.sublist (List.sublist_append_left vs [v]))
    obtain ⟨t', hadd, ht'⟩ := ht.exists_addTo
      (h.isAddend v (List.mem_append_right vs (List.mem_singleton_self v))) h.addsUp
    refine ⟨t', ?_, ht'⟩
    rw [List.map_append, List.map_singleton, mergeAll_append_singleton hmerge,
      merged_ofTotal f hadd]

/-- What the sum or the count of some cells is to be: NULL or zero if all of them are NULL, and else a
number whose exact value is the sum of theirs, a decimal at the largest of their scales if there is a
decimal among them. -/
structure IsExactTotal (f : AggregateFunction) (vs : List Cell) (c : Cell) : Prop where
  of_null : (∀ v ∈ vs, v = .null) → c = emptyTotal f
  exactValue?_eq : (∃ v ∈ vs, v ≠ .null) → c.exactValue? = some (totalOf vs)
  of_decimal : HasDecimal vs →
    ∃ d, c = .decimal d ∧ d.scale.val = Decimal.largestScale (exacts vs)

lemma IsExactTotal.perm (h : IsExactTotal f ws c) (hperm : ws.Perm vs) : IsExactTotal f vs c where
  of_null hnull := h.of_null fun v hv => hnull v (hperm.mem_iff.mp hv)
  exactValue?_eq := by
    rintro ⟨v, hv, hne⟩
    rw [h.exactValue?_eq ⟨v, hperm.mem_iff.mpr hv, hne⟩, totalOf_perm hperm]
  of_decimal hsome := by
    obtain ⟨d, hc, hscale⟩ := h.of_decimal (hsome.perm hperm.symm)
    exact ⟨d, hc, hscale.trans (Decimal.largestScale_perm (hperm.filterMap _))⟩

lemma IsPlacedTotal.isExactTotal (h : IsPlacedTotal vs t) (hvs : ∀ v ∈ vs, v.IsAddend) :
    IsExactTotal f vs (t.getD (emptyTotal f)) := by
  obtain ⟨htotal, hdecimal⟩ := h
  constructor
  · intro hnull
    cases t with
    | none => rfl
    | some x => exact absurd (exacts_eq_nil hnull) htotal.1
  · rintro ⟨v, hv, hne⟩
    obtain ⟨e, he⟩ := Option.isSome_iff_exists.mp ((hvs v hv).resolve_left hne)
    cases t with
    | none => exact absurd htotal (exacts_ne_nil hv he)
    | some x =>
      obtain ⟨-, d, hd, hsum⟩ := htotal
      rw [Option.getD_some, exactValue?_of_toDecimal? hd, hsum.value_eq, totalOf]
  · intro hsome
    obtain ⟨d, rfl⟩ := hdecimal hsome
    obtain ⟨-, d', hd', hsum⟩ := htotal
    cases hd'
    exact ⟨d, rfl, hsum.scale_eq⟩

/-- Sums and counts take cells that add up in any order, and come to their exact total. -/
theorem exact_total_in_any_order (places : Decimal.Scale) (hf : f = .sum ∨ f = .count)
    (h : AddUp vs) (hperm : ws.Perm vs) :
    ∃ u, mergeAll (.new f places) (ws.map fun v => [v]) = .ok u ∧ IsExactTotal f vs u.result := by
  obtain ⟨t, hmerge, ht⟩ := exists_total places hf (h.perm hperm.symm)
  refine ⟨ofTotal f t, hmerge, ?_⟩
  rw [result_ofTotal]
  exact (ht.isExactTotal fun v hv => h.isAddend v (hperm.mem_iff.mp hv)).perm hperm

/-- Three integers and a decimal whose total leaves 64 bits on the way and comes back. -/
def crossingAddends : List Cell :=
  [.int64 ⟨2 ^ 63 - 1, by decide⟩, .int32 ⟨1, by decide⟩, .null,
    .decimal ⟨⟨-25, by decide⟩, ⟨1, by decide⟩⟩, .int64 ⟨-5, by decide⟩]

theorem exact_total_of_crossingAddends :
    AddUp crossingAddends ∧ crossingAddends.reverse.Perm crossingAddends ∧
      ∃ u, mergeAll (.new .sum 4) (crossingAddends.reverse.map fun v => [v]) = .ok u ∧
        IsExactTotal .sum crossingAddends u.result := by
  have h : AddUp crossingAddends := ⟨by decide, by decide⟩
  have hperm : crossingAddends.reverse.Perm crossingAddends := List.reverse_perm _
  exact ⟨h, hperm, exact_total_in_any_order 4 (Or.inl rfl) h hperm⟩

end Accumulator

end Confluence
