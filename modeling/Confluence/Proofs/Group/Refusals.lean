import Confluence.Proofs.Group.RunningValues

/-!
# Accumulators that refuse a row

An accumulator refuses a row of the wrong length and a value that it cannot compare, and both leave it
as it was. A total is another matter: a value that cannot be added takes the total with it, so that a
sum, a count or an average starts again from nothing.
-/

namespace Confluence

open Cell

namespace Cell

variable {a b v : Cell}

/-- Whether a cell cannot be added to a total: it is neither NULL nor a number. -/
def IsUnaddable (v : Cell) : Prop := v ≠ .null ∧ v.family? ≠ some .numeric

instance (v : Cell) : Decidable v.IsUnaddable := inferInstanceAs (Decidable (_ ∧ _))

lemma family?_addIntegers (m n : Signed 64) : (addIntegers m n).family? = some .numeric := by
  rw [addIntegers]
  split <;> rfl

lemma family?_addDecimals (d e : Decimal) : (addDecimals d e).family? = some .numeric := by
  rw [addDecimals]
  split <;> rfl

/-- Numbers have a sum, and it is a number. -/
lemma exists_add?_of_numeric (ha : a.family? = some .numeric) (hb : b.family? = some .numeric) :
    ∃ c, a.add? b = some c ∧ c.family? = some .numeric := by
  cases a <;> cases ha <;> cases b <;> cases hb <;> first
    | exact ⟨_, rfl, rfl⟩
    | exact ⟨_, rfl, family?_addIntegers _ _⟩
    | exact ⟨_, rfl, family?_addDecimals _ _⟩

end Cell

/-- How many values an aggregate is fed with a row. -/
def AggregateFunction.arity : AggregateFunction → Nat
  | .avg => 2
  | _ => 1

namespace Accumulator

variable {t t' : Option Cell} {v : Cell} {u u' : Accumulator} {f : AggregateFunction}
  {inputs : List Cell} {e : Failure}

/-! ### One value -/

/-- A total that is missing or a number. -/
def IsNumericTotal (t : Option Cell) : Prop := ∀ x, t = some x → x.family? = some .numeric

lemma isNumericTotal_none : IsNumericTotal none := fun _ h => nomatch h

/-- A cell that cannot be added takes the total with it. -/
lemma addTo_of_isUnaddable (t : Option Cell) (hv : v.IsUnaddable) :
    addTo t v = (.error (.typeMismatch "numeric" v.familyName), none) := by
  have hnull : v.isNull ≠ true := mt isNull_eq_true_iff.mp hv.1
  rw [addTo.eq_def, if_neg hnull, if_pos hv.2]

/-- Every other cell is added. -/
lemma IsNumericTotal.exists_addTo (h : IsNumericTotal t) (hv : ¬ v.IsUnaddable) :
    ∃ t', addTo t v = (.ok (), t') ∧ IsNumericTotal t' := by
  rw [addTo.eq_def]
  by_cases hnull : v = .null
  · subst hnull
    exact ⟨t, rfl, h⟩
  · have hnumeric : v.family? = some .numeric := by
      by_contra hnumeric
      exact hv ⟨hnull, hnumeric⟩
    rw [if_neg (mt isNull_eq_true_iff.mp hnull), if_neg (not_not.mpr hnumeric)]
    cases t with
    | none =>
      refine ⟨some v, rfl, ?_⟩
      rintro _ ⟨⟩
      exact hnumeric
    | some x =>
      obtain ⟨y, hy, hynumeric⟩ := exists_add?_of_numeric (h x rfl) hnumeric
      refine ⟨some y, by simp only [hy], ?_⟩
      rintro _ ⟨⟩
      exact hynumeric

lemma IsNumericTotal.of_addTo_eq_error (h : IsNumericTotal t)
    (hadd : Accumulator.addTo t v = (.error e, t')) : v.IsUnaddable ∧ t' = none := by
  by_cases hv : v.IsUnaddable
  · rw [addTo_of_isUnaddable t hv] at hadd
    cases hadd
    exact ⟨hv, rfl⟩
  · obtain ⟨t'', hadd', -⟩ := h.exists_addTo hv
    rw [hadd'] at hadd
    cases hadd

/-- A total that was added to, or that was lost, is still no other than a number. -/
lemma IsNumericTotal.addTo (h : IsNumericTotal t) (v : Cell) : IsNumericTotal (addTo t v).2 := by
  by_cases hv : v.IsUnaddable
  · rw [addTo_of_isUnaddable t hv]
    exact isNumericTotal_none
  · obtain ⟨t', hadd, ht'⟩ := h.exists_addTo hv
    rwa [hadd]

/-- A value that cannot be compared leaves the extremum. -/
lemma eq_of_keepExtremum_eq_error {wanted : Ordering}
    (h : keepExtremum wanted t v = (.error e, t')) : t' = t := by
  rw [keepExtremum.eq_def] at h
  split at h
  · cases h
  · split at h
    · cases h
    · split at h
      · cases h
      · cases h
        rfl

/-! ### One row -/

/-- Whether the totals of an accumulator are missing or numbers. -/
def HasNumericTotals : Accumulator → Prop
  | .count t => IsNumericTotal t
  | .sum t => IsNumericTotal t
  | .max _ => True
  | .min _ => True
  | .avg s c _ => IsNumericTotal s ∧ IsNumericTotal c

/-- A row of the wrong length is refused. -/
lemma merge_of_length_ne (h : inputs.length ≠ u.function.arity) :
    u.merge inputs = (.error (arityFailure u.function u.function.arity inputs.length), u) := by
  match u, inputs with
  | .count _, [] | .sum _, [] | .max _, [] | .min _, [] => rfl
  | .count _, _ :: _ :: _ | .sum _, _ :: _ :: _ | .max _, _ :: _ :: _ | .min _, _ :: _ :: _ => rfl
  | .avg .., [] | .avg .., [_] | .avg .., _ :: _ :: _ :: _ => rfl
  | .count _, [_] | .sum _, [_] | .max _, [_] | .min _, [_] => exact absurd rfl h
  | .avg .., [_, _] => exact absurd rfl h

/-- Whether a row takes a total with it: a sum, a count or an average is fed as many values as it
expects, and one of them cannot be added. -/
structure SpoilsTotal (f : AggregateFunction) (inputs : List Cell) : Prop where
  ne_max : f ≠ .max
  ne_min : f ≠ .min
  length_eq : inputs.length = f.arity
  exists_unaddable : ∃ v ∈ inputs, v.IsUnaddable

/-- Without a total or without a count there is no average. -/
lemma average_zeroCount (x : Cell) (places : Decimal.Scale) :
    average x zeroCount places = .null := by
  rw [average]
  split
  · rfl
  · rfl

/-- What a refused row can leave: the accumulator as it was, or one whose result is that of an
accumulator that was fed nothing. -/
lemma HasNumericTotals.of_merge_eq_error (h : u.HasNumericTotals)
    (hmerge : u.merge inputs = (.error e, u')) (places : Decimal.Scale) :
    (¬ SpoilsTotal u.function inputs ∧ u' = u) ∨
      (SpoilsTotal u.function inputs ∧ u'.result = (new u.function places).result) := by
  by_cases hlength : inputs.length = u.function.arity
  · cases u with
    | count t | sum t =>
      obtain ⟨v, rfl⟩ := List.length_eq_one_iff.mp hlength
      rcases hadd : addTo t v with ⟨r, t'⟩
      rw [merge, hadd] at hmerge
      cases hmerge
      obtain ⟨hv, rfl⟩ := IsNumericTotal.of_addTo_eq_error h hadd
      exact Or.inr ⟨⟨nofun, nofun, rfl, v, List.mem_singleton_self v, hv⟩, rfl⟩
    | max t =>
      obtain ⟨v, rfl⟩ := List.length_eq_one_iff.mp hlength
      rcases hkeep : keepExtremum .gt t v with ⟨r, t'⟩
      rw [merge, hkeep] at hmerge
      cases hmerge
      exact Or.inl ⟨fun h => h.ne_max rfl, by rw [eq_of_keepExtremum_eq_error hkeep]⟩
    | min t =>
      obtain ⟨v, rfl⟩ := List.length_eq_one_iff.mp hlength
      rcases hkeep : keepExtremum .lt t v with ⟨r, t'⟩
      rw [merge, hkeep] at hmerge
      cases hmerge
      exact Or.inl ⟨fun h => h.ne_min rfl, by rw [eq_of_keepExtremum_eq_error hkeep]⟩
    | avg s c places' =>
      obtain ⟨v, n, rfl⟩ := List.length_eq_two.mp hlength
      have hnew : (new .avg places).result = .null := average_zeroCount .null places
      rcases hsum : addTo s v with ⟨_ | _, s'⟩
      · rw [merge, hsum] at hmerge
        cases hmerge
        obtain ⟨hv, rfl⟩ := h.1.of_addTo_eq_error hsum
        exact Or.inr ⟨⟨nofun, nofun, rfl, v, List.mem_cons_self, hv⟩, hnew.symm⟩
      · rcases hcount : addTo c n with ⟨r, c'⟩
        rw [merge, hsum, hcount] at hmerge
        cases hmerge
        -- the sum was added to before the count was lost
        obtain ⟨hn, rfl⟩ := h.2.of_addTo_eq_error hcount
        refine Or.inr ⟨⟨nofun, nofun, rfl, n, by simp, hn⟩, ?_⟩
        exact (average_zeroCount _ places').trans hnew.symm
  · rw [merge_of_length_ne hlength] at hmerge
    cases hmerge
    exact Or.inl ⟨fun h => hlength h.length_eq, rfl⟩

/-- No row makes a total anything but a number. -/
lemma HasNumericTotals.merge (h : u.HasNumericTotals) (inputs : List Cell) :
    (u.merge inputs).2.HasNumericTotals := by
  by_cases hlength : inputs.length = u.function.arity
  · cases u with
    | count t | sum t =>
      obtain ⟨v, rfl⟩ := List.length_eq_one_iff.mp hlength
      exact IsNumericTotal.addTo h v
    | max t | min t =>
      obtain ⟨v, rfl⟩ := List.length_eq_one_iff.mp hlength
      exact trivial
    | avg s c places =>
      obtain ⟨v, n, rfl⟩ := List.length_eq_two.mp hlength
      have hsum := h.1.addTo v
      rcases hadd : Accumulator.addTo s v with ⟨_ | _, s'⟩
      · rw [hadd] at hsum
        rw [Accumulator.merge, hadd]
        exact ⟨hsum, h.2⟩
      · rw [hadd] at hsum
        rw [Accumulator.merge, hadd]
        exact ⟨hsum, h.2.addTo n⟩
  · rw [merge_of_length_ne hlength]
    exact h

/-! ### Any rows -/

/-- What becomes of an accumulator that is fed some rows, one after the other, whether it takes them or
refuses them. -/
def afterAll (u : Accumulator) (rows : List (List Cell)) : Accumulator :=
  rows.foldl (fun u inputs => (u.merge inputs).2) u

lemma function_afterAll (u : Accumulator) (rows : List (List Cell)) :
    (u.afterAll rows).function = u.function := by
  induction rows generalizing u with
  | nil => rfl
  | cons inputs rows ih => exact (ih _).trans (function_merge u inputs)

lemma hasNumericTotals_new (f : AggregateFunction) (places : Decimal.Scale) :
    (new f places).HasNumericTotals := by
  cases f with
  | count | sum => exact isNumericTotal_none
  | max | min => exact trivial
  | avg => exact ⟨isNumericTotal_none, isNumericTotal_none⟩

lemma HasNumericTotals.afterAll (h : u.HasNumericTotals) (rows : List (List Cell)) :
    (u.afterAll rows).HasNumericTotals := by
  induction rows generalizing u with
  | nil => exact h
  | cons inputs rows ih => exact ih (h.merge inputs)

/-- A refused row leaves an accumulator as it was, whatever rows it took or refused before, unless a
total is fed a value that cannot be added: then the result is that of an accumulator that was fed
nothing. -/
theorem refused_row_keeps_unless_spoiled (f : AggregateFunction) (places : Decimal.Scale)
    (rows : List (List Cell))
    (h : ((new f places).afterAll rows).merge inputs = (.error e, u')) :
    (¬ SpoilsTotal f inputs → u' = (new f places).afterAll rows) ∧
      (SpoilsTotal f inputs → u'.result = (new f places).result) := by
  have hnumeric := (hasNumericTotals_new f places).afterAll rows
  have hfunction : ((new f places).afterAll rows).function = f :=
    (function_afterAll _ rows).trans (function_new f places)
  have hleft := hnumeric.of_merge_eq_error h places
  rw [hfunction] at hleft
  rcases hleft with ⟨hkept, hu⟩ | ⟨hspoiled, hresult⟩
  · exact ⟨fun _ => hu, fun hspoiled => absurd hspoiled hkept⟩
  · exact ⟨fun hkept => absurd hspoiled hkept, fun _ => hresult⟩

/-- The average of a sum of ten over two rows, fed a sum of five with a text for its count: the sum is
added and the count is lost. -/
theorem refused_row_spoils_average :
    let rows : List (List Cell) := [[.int64 ⟨10, by decide⟩, .int64 ⟨2, by decide⟩]]
    let inputs : List Cell := [.int64 ⟨5, by decide⟩, .text "x"]
    let u' : Accumulator := .avg (some (.int64 ⟨15, by decide⟩)) none 4
    ((new .avg 4).afterAll rows).merge inputs = (.error (.typeMismatch "numeric" "text"), u') ∧
      (¬ SpoilsTotal .avg inputs → u' = (new .avg 4).afterAll rows) ∧
      (SpoilsTotal .avg inputs → u'.result = (new .avg 4).result) := by
  intro rows inputs u'
  have h : ((new .avg 4).afterAll rows).merge inputs =
      (.error (.typeMismatch "numeric" "text"), u') := by rfl
  exact ⟨h, refused_row_keeps_unless_spoiled .avg 4 rows h⟩

/-- A sum of five is lost with a text that cannot be added to it. -/
theorem refused_row_loses_sum : ¬ ∀ (f : AggregateFunction) (places : Decimal.Scale)
    (rows : List (List Cell)) (inputs : List Cell) (e : Failure) (u' : Accumulator),
    ((new f places).afterAll rows).merge inputs = (.error e, u') →
      u'.result = ((new f places).afterAll rows).result := by
  intro h
  have hlost := h .sum 4 [[.int64 ⟨5, by decide⟩]] [.text "x"] _ _ rfl
  cases hlost

end Accumulator

end Confluence
