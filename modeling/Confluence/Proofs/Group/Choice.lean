import Confluence.Group.Table
import Confluence.Proofs.Cell.Key
import Confluence.Proofs.Sort.Preorder

/-!
# The choice among equal keys

A table of groups may hold several keys that are equal to a new one, because a decimal is rounded
where it is compared with a float in between two integers. As long as no cell of a key is rounded,
equality of keys is transitive, so there is at most one such key in a table, and how the table probes
makes no difference.
-/

namespace Confluence

/-! ### Cells that are never rounded -/

namespace Cell

variable {P : Cell → Prop} {a b : Cell}

/-- Whether all cells of a kind are compared with each other without rounding. -/
def NeverRounded (P : Cell → Prop) : Prop := ∀ v w, P v → P w → ¬ v.SharesUnit w

lemma not_sharesUnit_of_type?_ne (ha : a.type? ≠ some .float64) (hb : b.type? ≠ some .float64) :
    ¬ a.SharesUnit b := by
  intro h
  unfold SharesUnit at h
  split at h
  · exact ha rfl
  · exact hb rfl
  · exact h

/-- Numbers of one unit are a float and a decimal. -/
lemma type?_eq_decimal_of_sharesUnit (h : a.SharesUnit b) :
    a.type? = some .decimal ∨ b.type? = some .decimal := by
  have hdecimal {c : Cell} {d : Decimal} {x : Binary64} (hc : c.toDecimal? = some d)
      (hd : d.SharesUnit x) : c.type? = some .decimal := by
    cases c with
    | decimal d => rfl
    | int32 n =>
      have hint : (Cell.int32 n).integer? = some (n.widen (by decide)) := rfl
      rw [integer?_of_toDecimal? hc] at hint
      exact absurd hd (Decimal.not_sharesUnit_of_integer? hint x)
    | int64 n =>
      have hint : (Cell.int64 n).integer? = some (n.widen (by decide)) := rfl
      rw [integer?_of_toDecimal? hc] at hint
      exact absurd hd (Decimal.not_sharesUnit_of_integer? hint x)
    | _ => cases hc
  unfold SharesUnit at h
  split at h
  · obtain ⟨d, hd, hshares⟩ := h
    exact Or.inr (hdecimal hd hshares)
  · obtain ⟨d, hd, hshares⟩ := h
    exact Or.inl (hdecimal hd hshares)
  · exact h.elim

/-- Where floats and decimals do not meet, nothing is rounded. -/
lemma neverRounded_of_unmixed
    (h : (∀ v, P v → v.type? ≠ some .float64) ∨ ∀ v, P v → v.type? ≠ some .decimal) :
    NeverRounded P := by
  intro v w hv hw hshares
  rcases h with h | h
  · exact not_sharesUnit_of_type?_ne (h v hv) (h w hw) hshares
  · rcases type?_eq_decimal_of_sharesUnit hshares with hdecimal | hdecimal
    · exact h v hv hdecimal
    · exact h w hw hdecimal

/-- NULL is rounded no more than the others. -/
lemma NeverRounded.or_null (h : NeverRounded P) : NeverRounded fun v => P v ∨ v = .null := by
  have hleft (w : Cell) : ¬ Cell.null.SharesUnit w := by cases w <;> simp [SharesUnit, toDecimal?]
  have hright (v : Cell) : ¬ v.SharesUnit .null := by cases v <;> simp [SharesUnit, toDecimal?]
  rintro v w (hv | rfl) (hw | rfl)
  · exact h v w hv hw
  · exact hright v
  · exact hleft w
  · exact hleft .null

lemma ne_nan_of_sameGroup (h : a.sameGroup b = true) : a ≠ .float64 .nan := by
  rintro rfl
  cases b <;> simp [sameGroup, isNull, sameValue, compare?, compareNumeric?, Binary64.compare?,
    family?, toDecimal?, Decimal.compareBinary64?] at h

end Cell

/-! ### Keys -/

namespace GroupKey

variable {k l m : GroupKey} {P : Nat → Cell → Prop} {columns : List Nat}

lemma noNaN_of_same (h : k.same l = true) : NoNaN k := by
  induction k generalizing l with
  | nil => exact List.forall_mem_nil _
  | cons a as ih =>
    cases l with
    | nil => cases h
    | cons b bs =>
      rw [same, Bool.and_eq_true] at h
      exact List.forall_mem_cons.mpr ⟨Cell.ne_nan_of_sameGroup h.1, ih h.2⟩

/-- Keys that are equal to a third one are equal, if no cell is rounded. -/
lemma same_of_same (hkl : k.Unrounded l) (hkm : k.Unrounded m) (hlm : l.Unrounded m)
    (hk : k.same m = true) (hl : l.same m = true) : k.same l = true := by
  have hm : NoNaN m := noNaN_of_same ((same_comm m k).trans hk)
  have hk₀ := noNaN_of_same hk
  have hl₀ := noNaN_of_same hl
  rw [same_iff_linePlace hk₀ hm hkm] at hk
  rw [same_iff_linePlace hl₀ hm hlm] at hl
  exact (same_iff_linePlace hk₀ hl₀ hkl).mpr (hk.trans hl.symm)

/-- Keys with cells that are never rounded. -/
lemma unrounded_of_forall₂ (hP : ∀ i ∈ columns, Cell.NeverRounded (P i))
    (hk : List.Forall₂ P columns k) (hl : List.Forall₂ P columns l) : k.Unrounded l := by
  induction hk generalizing l with
  | nil => exact List.forall_mem_nil _
  | cons hv _ ih =>
    rw [List.forall_mem_cons] at hP
    cases hl with
    | cons hw hl =>
      rw [Unrounded, List.zip_cons_cons, List.forall_mem_cons]
      exact ⟨hP.1 _ _ hv hw, ih hP.2 hl⟩

/-- The keys of a table: their cells are of the kinds that the group columns have, and no two of them
are equal. -/
structure Apart (P : Nat → Cell → Prop) (columns : List Nat) (keys : List GroupKey) : Prop where
  cells : ∀ k ∈ keys, List.Forall₂ P columns k
  pairwise : keys.Pairwise fun k l => k.same l = false

lemma apart_nil : Apart P columns [] := ⟨List.forall_mem_nil _, .nil⟩

/-- A key that is equal to none of the others. -/
lemma Apart.append_singleton {keys : List GroupKey} (h : Apart P columns keys)
    (hk : List.Forall₂ P columns k) (hnew : ∀ l ∈ keys, l.same k = false) :
    Apart P columns (keys ++ [k]) where
  cells := List.forall_mem_append.mpr ⟨h.cells, List.forall_mem_singleton.mpr hk⟩
  pairwise := List.pairwise_append.mpr ⟨h.pairwise, List.pairwise_singleton _ _, fun l hl _ hk' =>
    List.mem_singleton.mp hk' ▸ hnew l hl⟩

/-- Without rounding, no key is equal to two keys of a table. -/
lemma Apart.unique {keys : List GroupKey} (h : Apart P columns keys)
    (hP : ∀ i ∈ columns, Cell.NeverRounded (P i)) (hk : List.Forall₂ P columns k) :
    keys.Pairwise fun l m => l.same k = true → m.same k = false := by
  refine h.pairwise.imp_of_mem fun hl hm hlm hlk => ?_
  by_contra hmk
  have hl' := h.cells _ hl
  have hm' := h.cells _ hm
  have hsame := same_of_same (unrounded_of_forall₂ hP hl' hm') (unrounded_of_forall₂ hP hl' hk)
    (unrounded_of_forall₂ hP hm' hk) hlk (Bool.eq_true_of_not_eq_false hmk)
  cases hlm.symm.trans hsame

end GroupKey

/-- The key of a row has cells of the row, or NULL. -/
lemma Grouping.keyOf_cells {g : Grouping} {r : Row} {P : Nat → Cell → Prop}
    (h : ∀ i v, r[i]? = some v → P i v) :
    List.Forall₂ (fun i v => P i v ∨ v = .null) g.groupColumns (g.keyOf r) := by
  rw [Grouping.keyOf, List.forall₂_map_right_iff, List.forall₂_same]
  intro i _
  rw [Row.cell, List.getD_eq_getElem?_getD]
  cases hcell : r[i]? with
  | none => exact Or.inr rfl
  | some v => exact Or.inl (h i v hcell)

/-! ### Tables -/

namespace GroupTable

variable {g : Grouping} {r : Row} {P : Nat → Cell → Prop} {t t' : GroupTable}

/-- Where at most one key is equal to that of a row, it makes no difference how many are to be passed
over. -/
lemma addTo_eq_of_unique {gs : List (GroupKey × Group)}
    (h : gs.Pairwise fun p q => p.1.same (g.keyOf r) = true → q.1.same (g.keyOf r) = false)
    (skip skip' : Nat) : addTo g r skip gs = addTo g r skip' gs := by
  induction gs generalizing skip skip' with
  | nil => rfl
  | cons p rest ih =>
    obtain ⟨key, group⟩ := p
    rw [List.pairwise_cons] at h
    rw [addTo, addTo]
    cases hkey : key.same (g.keyOf r) with
    | true =>
      have hends (skip : Nat) : endsAt (g.keyOf r) skip rest = true := by
        simp only [endsAt, Bool.or_eq_true, List.all_eq_true, Bool.not_eq_true']
        exact Or.inr fun q hq => h.1 q hq hkey
      rw [hends, hends]
      rfl
    | false =>
      simp only [Bool.false_and, Bool.false_eq_true, if_false]
      rw [ih h.2 skip skip']

/-- Adding a row keeps the keys of a table, or puts the key of the row behind them if it is equal to
none of them. -/
lemma keys_of_addTo {skip : Nat} {gs gs' : List (GroupKey × Group)}
    (h : addTo g r skip gs = .ok gs') :
    gs'.map (·.1) = gs.map (·.1) ∨ gs'.map (·.1) = gs.map (·.1) ++ [g.keyOf r] ∧
      ∀ k ∈ gs.map (·.1), k.same (g.keyOf r) = false := by
  induction gs generalizing skip gs' with
  | nil =>
    rw [addTo] at h
    split at h
    · cases h
    · cases h
      exact Or.inr ⟨rfl, List.forall_mem_nil _⟩
  | cons p rest ih =>
    obtain ⟨key, group⟩ := p
    rw [addTo] at h
    split at h
    · split at h
      · cases h
      · cases h
        exact Or.inl rfl
    next hon =>
      split at h
      · cases h
      next rest' hrest =>
        cases h
        rcases ih hrest with hkeys | ⟨hkeys, hnone⟩
        · exact Or.inl (congrArg (key :: ·) hkeys)
        · -- the search went on behind the first entry, and found nothing there
          have hends : endsAt (g.keyOf r) skip rest = true := by
            simp only [endsAt, Bool.or_eq_true, List.all_eq_true, Bool.not_eq_true']
            exact Or.inr fun q hq => hnone q.1 (List.mem_map_of_mem hq)
          have hkey : key.same (g.keyOf r) = false := by
            rw [hends, Bool.and_true, Bool.not_eq_true] at hon
            exact hon
          exact Or.inr ⟨congrArg (key :: ·) hkeys, List.forall_mem_cons.mpr ⟨hkey, hnone⟩⟩

/-- A table whose keys are apart from each other. -/
def KeysApart (P : Nat → Cell → Prop) (g : Grouping) (t : GroupTable) : Prop :=
  GroupKey.Apart P g.groupColumns (t.groups.map (·.1))

lemma KeysApart.add (h : t.KeysApart P g) (hr : List.Forall₂ P g.groupColumns (g.keyOf r))
    {probing : Probing} (hadd : t.add probing g r = .ok t') : t'.KeysApart P g := by
  rw [GroupTable.add] at hadd
  split at hadd
  · cases hadd
  next gs hgs =>
    cases hadd
    rcases keys_of_addTo hgs with hkeys | ⟨hkeys, hnone⟩
    · rw [KeysApart, hkeys]
      exact h
    · rw [KeysApart, hkeys]
      exact h.append_singleton hr hnone

/-- Where no cell is rounded, all ways of probing add a row to the same group. -/
lemma KeysApart.add_eq (h : t.KeysApart P g)
    (hP : ∀ i ∈ g.groupColumns, Cell.NeverRounded (P i))
    (hr : List.Forall₂ P g.groupColumns (g.keyOf r)) (probing probing' : Probing) :
    t.add probing g r = t.add probing' g r := by
  have hunique : t.groups.Pairwise fun p q =>
      p.1.same (g.keyOf r) = true → q.1.same (g.keyOf r) = false :=
    List.pairwise_map.mp (h.unique hP hr)
  rw [GroupTable.add, GroupTable.add, addTo_eq_of_unique hunique]

end GroupTable

end Confluence
