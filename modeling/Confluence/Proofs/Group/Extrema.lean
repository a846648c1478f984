import Confluence.Proofs.Group.Partials

/-!
# Maxima and minima

A maximum or a minimum is formed of cells of one family and of no others. It is the first of the cells
that lie at least as far on its side as all others, in the representation in which it was fed, and only
this representation depends on the order of the cells.
-/

namespace Confluence

open Cell Accumulator

namespace Cell

variable {vs : List Cell} {x : Cell} {wanted : Ordering}

/-- Whether a cell lies at least as far on the wanted side as every cell that is not NULL. -/
def ReachesAll (wanted : Ordering) (vs : List Cell) (x : Cell) : Prop :=
  ∀ v ∈ vs, v ≠ .null → x.compare? v = some .eq ∨ x.compare? v = some wanted

/-- What the extremum of some cells is to be: NULL if all of them are NULL, and else the first of those
that reach all others. -/
inductive IsFirstExtremum (wanted : Ordering) (vs : List Cell) : Cell → Prop
  | null (h : ∀ v ∈ vs, v = .null) : IsFirstExtremum wanted vs .null
  | first {before after : List Cell} {x : Cell} (hvs : vs = before ++ x :: after) (hx : x ≠ .null)
    (hreaches : ReachesAll wanted vs x) (hfirst : ∀ v ∈ before, ¬ ReachesAll wanted vs v) :
    IsFirstExtremum wanted vs x

lemma oneFamily_iff (hexact : ∀ v ∈ vs, v.type? ≠ some .float64) : OneFamily vs ↔
    ∀ v ∈ vs, ∀ w ∈ vs, v ≠ .null → w ≠ .null → v.family? = w.family? := by
  have hnull (v : Cell) : v ≠ .null ↔ v.isNull = false := by
    rw [Ne, ← isNull_eq_true_iff, Bool.not_eq_true]
  simp only [hnull]
  constructor
  · intro h v hv w hw hvn hwn
    exact familyRank_eq_iff.mp (h.familyRank_eq v hv w hw hvn hwn)
  · intro h
    exact ⟨hexact, fun v hv w hw hvn hwn => familyRank_eq_iff.mpr (h v hv w hw hvn hwn)⟩

/-- No cell lies beyond the extremum. -/
lemma OneFamily.isExtremum (h : OneFamily vs) (hw : wanted ≠ .eq) :
    IsExtremum wanted vs (extremum? wanted vs) := by
  induction vs using List.reverseRecOn with
  | nil => exact isExtremum_nil wanted
  | append_singleton vs v ih =>
    have hvs : OneFamily vs := h.mono fun v hv _ => List.mem_append_left _ hv
    exact (ih hvs).keepExtremum hw h.type?_ne (keepExtremum_extremum? wanted h)

/-- The extremum lies beyond every cell before it. -/
lemma OneFamily.exists_split (h : OneFamily vs) (hw : wanted ≠ .eq)
    (hx : extremum? wanted vs = some x) :
    ∃ before after, vs = before ++ x :: after ∧
      ∀ v ∈ before, v.isNull = false → CellPlace.compare x.place v.place = wanted := by
  induction vs using List.reverseRecOn with
  | nil => cases hx
  | append_singleton vs v ih =>
    have hvs : OneFamily vs := h.mono fun v hv _ => List.mem_append_left _ hv
    have hearlier (hx : extremum? wanted vs = some x) : ∃ before after,
        vs ++ [v] = before ++ x :: after ∧
          ∀ v ∈ before, v.isNull = false → CellPlace.compare x.place v.place = wanted := by
      obtain ⟨before, after, rfl, hbefore⟩ := ih hvs hx
      exact ⟨before, after ++ [v], by simp, hbefore⟩
    rw [extremum?_append_singleton] at hx
    cases hv : v.isNull with
    | true =>
      rw [pick_of_isNull hv] at hx
      exact hearlier hx
    | false =>
      have hextremum := hvs.isExtremum hw
      cases hy : extremum? wanted vs with
      | none =>
        rw [hy] at hx hextremum
        rw [pick_none hv] at hx
        cases hx
        refine ⟨vs, [], rfl, fun w hwvs hwn => ?_⟩
        exact absurd (hextremum w hwvs) (ne_true_of_eq_false hwn)
      | some y =>
        rw [hy] at hx hextremum
        rw [pick_some hv, Option.some.injEq] at hx
        split at hx
        next hbeyond =>
          -- what lies beyond the extremum so far lies beyond all cells so far
          subst hx
          refine ⟨vs, [], rfl, fun w hwvs hwn => ?_⟩
          exact compare_of_ne hw (hextremum.2.2 w hwvs hwn) hbeyond
        next => exact hearlier (hy.trans (congrArg some hx))

/-- The extremum that is kept is the first one. -/
lemma OneFamily.isFirstExtremum (h : OneFamily vs) (hw : wanted ≠ .eq) :
    IsFirstExtremum wanted vs ((extremum? wanted vs).getD .null) := by
  have hextremum := h.isExtremum hw
  cases hx : extremum? wanted vs with
  | none =>
    rw [hx] at hextremum
    exact .null fun v hv => isNull_eq_true_iff.mp (hextremum v hv)
  | some x =>
    rw [hx] at hextremum
    obtain ⟨hmem, hxn, hleast⟩ := hextremum
    have hcompare {v w : Cell} (hv : v ∈ vs) (hwvs : w ∈ vs) (hvn : v.isNull = false)
        (hwn : w.isNull = false) : v.compare? w = some (CellPlace.compare v.place w.place) :=
      compare?_eq_some (h.type?_ne v hv) (h.type?_ne w hwvs) hvn
        (h.familyRank_eq v hv w hwvs hvn hwn)
    obtain ⟨before, after, hvs, hbefore⟩ := h.exists_split hw hx
    have hne : x ≠ .null := by
      rintro rfl
      cases hxn
    refine .first hvs hne ?_ ?_
    · intro v hv hvne
      have hvn : v.isNull = false := by rwa [← Bool.not_eq_true, isNull_eq_true_iff]
      rw [Option.getD_some, hcompare hmem hv hxn hvn, Option.some.injEq, Option.some.injEq]
      exact compare_of_not_beyond hw (hleast v hv hvn)
    · intro v hv hreaches
      have hvx := hreaches x hmem hne
      cases hvn : v.isNull with
      | true =>
        have hrank : v.familyRank ≠ x.familyRank := by
          intro hrank
          rw [← isNull_eq_of_familyRank_eq hrank, hvn] at hxn
          cases hxn
        simp [compare?_eq_none_of_familyRank_ne hrank] at hvx
      | false =>
        have hvvs : v ∈ vs := hvs ▸ List.mem_append_left _ hv
        rw [hcompare hvvs hmem hvn hxn, Option.some.injEq, Option.some.injEq] at hvx
        exact compare_of_beyond hw (hbefore v hv hvn) hvx

end Cell

namespace Accumulator

variable {vs : List Cell} {f : AggregateFunction} {wanted : Ordering} {places : Decimal.Scale}
  {u : Accumulator}

/-- The side on which an aggregate looks for an extremum. -/
inductive LooksFor : AggregateFunction → Ordering → Prop
  | max : LooksFor .max .gt
  | min : LooksFor .min .lt

lemma LooksFor.ne_eq (h : LooksFor f wanted) : wanted ≠ .eq := by
  cases h <;> decide

lemma LooksFor.combinable_iff (h : LooksFor f wanted) : Combinable vs f ↔ OneFamily vs := by
  cases h with
  | max | min =>
    constructor
    · rintro ⟨⟩
      assumption
    · intro hone
      constructor
      exact hone

lemma LooksFor.result_eq (h : LooksFor u.function wanted) (hu : Holds vs u) :
    u.result = (extremum? wanted vs).getD .null := by
  cases hu with
  | count | sum => cases h
  | max | min =>
    cases h
    rfl

/-- Cells of one family are all taken. -/
lemma LooksFor.exists_mergeAll (places : Decimal.Scale) (hf : LooksFor f wanted)
    (h : OneFamily vs) : ∃ u, mergeAll (.new f places) (vs.map fun v => [v]) = .ok u ∧
      u.result = (extremum? wanted vs).getD .null := by
  obtain ⟨u, hmerge, rfl, hu⟩ := (hf.combinable_iff.mpr h).exists_mergeAll places
  exact ⟨u, hmerge, hf.result_eq hu⟩

/-- Only cells of one family are all taken. -/
lemma LooksFor.oneFamily (hf : LooksFor f wanted) (hexact : ∀ v ∈ vs, v.type? ≠ some .float64)
    (h : mergeAll (.new f places) (vs.map fun v => [v]) = .ok u) : OneFamily vs := by
  rw [← hf.combinable_iff]
  refine combinable_of_mergeAll ?_ hexact ?_ h
  · rintro rfl
    cases hf
  · rintro (rfl | rfl) <;> cases hf

/-- A maximum or a minimum takes some cells exactly if they are of one family. It is the first of those
that reach all others, and cells in another order come to an equal one. -/
theorem first_extremum_of_one_family (places : Decimal.Scale) (hf : LooksFor f wanted)
    (hexact : ∀ v ∈ vs, v.type? ≠ some .float64) :
    ((∃ u, mergeAll (.new f places) (vs.map fun v => [v]) = .ok u) ↔
        ∀ v ∈ vs, ∀ w ∈ vs, v ≠ .null → w ≠ .null → v.family? = w.family?) ∧
      ∀ u, mergeAll (.new f places) (vs.map fun v => [v]) = .ok u →
        IsFirstExtremum wanted vs u.result ∧
          ∀ ws : List Cell, ws.Perm vs →
            ∃ u', mergeAll (.new f places) (ws.map fun v => [v]) = .ok u' ∧
              u'.result.Agrees u.result := by
  constructor
  · rw [← oneFamily_iff hexact]
    constructor
    · rintro ⟨u, hu⟩
      exact hf.oneFamily hexact hu
    · intro h
      obtain ⟨u, hu, -⟩ := hf.exists_mergeAll places h
      exact ⟨u, hu⟩
  · intro u hu
    have h := hf.oneFamily hexact hu
    obtain ⟨u₁, hu₁, hresult⟩ := hf.exists_mergeAll places h
    obtain rfl : u = u₁ := Except.ok.inj (hu.symm.trans hu₁)
    rw [hresult]
    refine ⟨h.isFirstExtremum hf.ne_eq, fun ws hperm => ?_⟩
    have hws : OneFamily ws := h.mono fun v hv _ => hperm.mem_iff.mp hv
    obtain ⟨u', hu', hresult'⟩ := hf.exists_mergeAll places hws
    refine ⟨u', hu', ?_⟩
    rw [hresult']
    exact (hws.isExtremum hf.ne_eq).getD_agrees hf.ne_eq (h.isExtremum hf.ne_eq) hperm hws.type?_ne

/-- NULL, the least number of three places and seven in three representations. -/
def tiedSevens : List Cell :=
  [.null, .decimal ⟨⟨-2 ^ 127, by decide⟩, ⟨3, by decide⟩⟩,
    .decimal ⟨⟨700, by decide⟩, ⟨2, by decide⟩⟩, .int32 ⟨7, by decide⟩, .int64 ⟨7, by decide⟩]

theorem first_extremum_of_tiedSevens :
    LooksFor .max .gt ∧ (∀ v ∈ tiedSevens, v.type? ≠ some .float64) ∧
      ∃ u, mergeAll (.new .max 4) (tiedSevens.map fun v => [v]) = .ok u ∧
        IsFirstExtremum .gt tiedSevens u.result ∧
          ∀ ws : List Cell, ws.Perm tiedSevens →
            ∃ u', mergeAll (.new .max 4) (ws.map fun v => [v]) = .ok u' ∧
              u'.result.Agrees u.result := by
  have hexact : ∀ v ∈ tiedSevens, v.type? ≠ some .float64 := by decide
  obtain ⟨hiff, hresult⟩ := first_extremum_of_one_family 4 .max hexact
  obtain ⟨u, hu⟩ := hiff.mpr (by decide)
  exact ⟨.max, hexact, u, hu, hresult u hu⟩

end Accumulator

end Confluence
