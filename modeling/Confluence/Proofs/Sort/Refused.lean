import Confluence.Sort.Guard
import Mathlib.Order.Nat
import Mathlib.Tactic.Common

/-!
# What a refused key leaves behind

A guard takes the columns of a key from the left and stops at the first value of another family than
the one that it remembers. What it learned in front of that column it keeps, so that a later key can
be refused for the sake of one that was refused itself. A refused key is forgotten exactly if
nothing in front of the column where it is refused was new.
-/

namespace Confluence.TypeGuard

variable {g g' : TypeGuard} {key : Row} {k : Nat} {e : Failure} {slot : Option Family}
  {slots : TypeGuard} {c : Cell}

/-! ### One key -/

/-- Whether a key has a value at a place for which another family is remembered. -/
def RefusesAt (g : TypeGuard) (key : Row) (k : Nat) : Prop :=
  ∃ seen f, g[k]? = some (some seen) ∧ (key.cell k).family? = some f ∧ seen ≠ f

/-- Whether a key has a value at a place for which no family is remembered. -/
def LearnsAt (g : TypeGuard) (key : Row) (k : Nat) : Prop :=
  g[k]? = some none ∧ (key.cell k).family? ≠ none

lemma not_refusesAt_nil : ¬ RefusesAt g [] k := by
  rintro ⟨seen, f, -, hf, -⟩
  cases hf

/-- A guard goes on to the next column unless the first value is of another family. -/
lemma accept_cons (h : ¬ RefusesAt (slot :: slots) (c :: key) 0) :
    accept (slot :: slots) (c :: key) =
      ((accept slots key).1, slot.or c.family? :: (accept slots key).2) := by
  cases hc : c.family? with
  | none => simp only [accept, hc, Option.or_none]
  | some f =>
    cases slot with
    | none => simp only [accept, hc, Option.none_or]
    | some seen =>
      have hseen : seen = f := by
        by_contra hne
        exact h ⟨seen, f, rfl, hc, hne⟩
      simp only [accept, hc, if_pos hseen, Option.some_or]

lemma accept_cons_of_refusesAt (h : RefusesAt (slot :: slots) (c :: key) 0) :
    ∃ e, accept (slot :: slots) (c :: key) = (.error e, slot :: slots) := by
  obtain ⟨seen, f, hslot, hf, hne⟩ := h
  obtain rfl : slot = some seen := Option.some.inj hslot
  have hc : c.family? = some f := hf
  exact ⟨.typeMismatch seen.name f.name, by simp only [accept, hc, if_neg hne]⟩

/-- A key is accepted if it is refused in no column. -/
lemma accept_eq_ok_iff (g : TypeGuard) (key : Row) :
    (g.accept key).1 = .ok () ↔ ∀ k, ¬ g.RefusesAt key k := by
  induction g generalizing key with
  | nil =>
    refine iff_of_true rfl ?_
    rintro k ⟨seen, f, hk, -⟩
    cases hk
  | cons slot slots ih =>
    cases key with
    | nil => exact iff_of_true rfl fun k => not_refusesAt_nil
    | cons c key =>
      by_cases h : RefusesAt (slot :: slots) (c :: key) 0
      · obtain ⟨e, he⟩ := accept_cons_of_refusesAt h
        rw [he]
        exact iff_of_false nofun fun hall => hall 0 h
      · rw [accept_cons h, ih]
        constructor
        · intro hall k
          cases k with
          | zero => exact h
          | succ k => exact hall k
        · exact fun hall k => hall (k + 1)

/-- What a guard remembers after it was shown a key: in front of the first column where the key is
refused also the families of the key, and from there on what it remembered before. -/
lemma getElem?_accept (g : TypeGuard) (key : Row) (k : Nat) :
    ((∃ j ≤ k, g.RefusesAt key j) → (g.accept key).2[k]? = g[k]?) ∧
      ((∀ j ≤ k, ¬ g.RefusesAt key j) →
        (g.accept key).2[k]? = g[k]?.map (·.or (key.cell k).family?)) := by
  induction g generalizing key k with
  | nil => exact ⟨fun _ => rfl, fun _ => rfl⟩
  | cons slot slots ih =>
    cases key with
    | nil =>
      refine ⟨fun _ => rfl, fun _ => ?_⟩
      have hnull : (Row.cell [] k).family? = none := rfl
      simp [accept, hnull]
    | cons c key =>
      by_cases h : RefusesAt (slot :: slots) (c :: key) 0
      · obtain ⟨e, he⟩ := accept_cons_of_refusesAt h
        rw [he]
        exact ⟨fun _ => rfl, fun hall => absurd h (hall 0 (Nat.zero_le k))⟩
      · rw [accept_cons h]
        cases k with
        | zero =>
          refine ⟨?_, fun _ => rfl⟩
          rintro ⟨j, hj, href⟩
          rw [Nat.le_zero.mp hj] at href
          exact absurd href h
        | succ k =>
          obtain ⟨hkept, hlearned⟩ := ih key k
          refine ⟨?_, fun hall => hlearned fun j hj => hall (j + 1) (Nat.succ_le_succ hj)⟩
          rintro ⟨j, hj, href⟩
          cases j with
          | zero => exact absurd href h
          | succ j => exact hkept ⟨j, Nat.le_of_succ_le_succ hj, href⟩

lemma exists_isLeast_refusesAt (h : (g.accept key).1 ≠ .ok ()) :
    ∃ k, IsLeast {j | g.RefusesAt key j} k := by
  classical
  have hrefused : ∃ k, g.RefusesAt key k := by
    by_contra hnone
    exact h ((g.accept_eq_ok_iff key).mpr (not_exists.mp hnone))
  exact ⟨_, Nat.isLeast_find hrefused⟩

lemma getElem?_accept_of_lt {j : Nat} (hk : IsLeast {j | g.RefusesAt key j} k) (hj : j < k) :
    (g.accept key).2[j]? = g[j]?.map (·.or (key.cell j).family?) := by
  refine (g.getElem?_accept key j).2 fun i hi href => ?_
  exact absurd (hk.2 href) (Nat.not_le.mpr (Nat.lt_of_le_of_lt hi hj))

/-- A guard stays as it is if it refuses a key with nothing new in front. -/
lemma accept_eq_self (hk : IsLeast {j | g.RefusesAt key j} k) (hnew : ∀ j < k, ¬ g.LearnsAt key j) :
    (g.accept key).2 = g := by
  refine List.ext_getElem? fun j => ?_
  rcases Nat.lt_or_ge j k with hj | hj
  · rw [getElem?_accept_of_lt hk hj]
    cases hslot : g[j]? with
    | none => rfl
    | some slot =>
      cases slot with
      | some seen => rfl
      | none =>
        have hnull : (key.cell j).family? = none := by
          by_contra hvalue
          exact hnew j hj ⟨hslot, hvalue⟩
        rw [hnull]
        rfl
  · exact (g.getElem?_accept key j).1 ⟨k, hj, hk.1⟩

/-! ### Later keys -/

/-- What becomes of a guard that is shown some keys, one after the other, whether it accepts them or
refuses them. -/
def afterAll (g : TypeGuard) (keys : List Row) : TypeGuard :=
  keys.foldl (fun g key => (g.accept key).2) g

/-- Whether a guard accepts some keys that it is shown one after the other, with whatever it
remembers of those in front. -/
def verdicts (g : TypeGuard) : List Row → List Bool
  | [] => []
  | key :: keys => (g.accept key).1.isOk :: verdicts (g.accept key).2 keys

/-- A key with a single value. -/
def soleValue (k : Nat) (c : Cell) : Row := List.replicate k .null ++ [c]

lemma cell_soleValue_self (k : Nat) (c : Cell) : (soleValue k c).cell k = c := by
  simp [soleValue, Row.cell]

lemma cell_soleValue_of_ne {j : Nat} (h : j ≠ k) (c : Cell) : (soleValue k c).cell j = .null := by
  rw [soleValue, Row.cell, List.getD_eq_getElem?_getD]
  rcases Nat.lt_or_gt_of_ne h with hlt | hgt
  · rw [List.getElem?_append_left (by simpa using hlt)]
    simp [hlt]
  · have hlength : (List.replicate k Cell.null ++ [c]).length ≤ j := by simp; omega
    rw [List.getElem?_eq_none hlength, Option.getD_none]

/-- A key with a single value is refused at its place or not at all. -/
lemma accept_soleValue_eq_ok_iff :
    (g.accept (soleValue k c)).1 = .ok () ↔ ¬ g.RefusesAt (soleValue k c) k := by
  rw [accept_eq_ok_iff]
  refine ⟨fun hall => hall k, fun hk j => ?_⟩
  by_cases hjk : j = k
  · rwa [hjk]
  · rintro ⟨seen, f, -, hf, -⟩
    rw [cell_soleValue_of_ne hjk] at hf
    cases hf

lemma exists_family?_ne (f : Family) :
    ∃ (c : Cell) (f' : Family), c.family? = some f' ∧ f ≠ f' := by
  by_cases h : f = .text
  · exact ⟨.boolean true, .boolean, rfl, by rw [h]; decide⟩
  · exact ⟨.text "", .text, rfl, h⟩

/-- A guard that learned a family refuses a key that it would have accepted before. -/
lemma exists_verdicts_ne {f : Family} (h : g[k]? = some none) (h' : g'[k]? = some (some f)) :
    ∃ later, g'.verdicts later ≠ g.verdicts later := by
  obtain ⟨c, f', hc, hne⟩ := exists_family?_ne f
  have haccept : (g.accept (soleValue k c)).1 = .ok () := by
    rw [accept_soleValue_eq_ok_iff]
    rintro ⟨seen, f, hk, -⟩
    rw [h] at hk
    cases hk
  have hrefuse : (g'.accept (soleValue k c)).1 ≠ .ok () := by
    rw [Ne, accept_soleValue_eq_ok_iff, not_not]
    exact ⟨f, f', h', by rw [cell_soleValue_self, hc], hne⟩
  refine ⟨[soleValue k c], fun heq => hrefuse ?_⟩
  have hok : (g'.accept (soleValue k c)).1.isOk = true := by
    simp only [verdicts, haccept, List.cons.injEq, and_true] at heq
    exact heq
  cases hr : (g'.accept (soleValue k c)).1 with
  | ok => rfl
  | error e =>
    rw [hr] at hok
    cases hok

/-- A key is refused at the first column with a value of another family. The guard forgets the key,
and answers to all later keys as if it had not been shown, exactly if no column in front of that one
had a value of a family that was still to be learned. -/
theorem refused_key_forgotten_iff (h : g.accept key = (.error e, g')) :
    ∃ k, IsLeast {j | g.RefusesAt key j} k ∧
      ((∀ j < k, ¬ g.LearnsAt key j) → g' = g) ∧
      ((∀ later, g'.verdicts later = g.verdicts later) ↔ ∀ j < k, ¬ g.LearnsAt key j) := by
  have hrefused : (g.accept key).1 ≠ .ok () := by
    rw [h]
    exact nofun
  have hg' : (g.accept key).2 = g' := by rw [h]
  obtain ⟨k, hk⟩ := exists_isLeast_refusesAt hrefused
  have hkept (hnew : ∀ j < k, ¬ g.LearnsAt key j) : g' = g :=
    hg'.symm.trans (accept_eq_self hk hnew)
  refine ⟨k, hk, hkept, fun hsame j hj hlearn => ?_, fun hnew later => by rw [hkept hnew]⟩
  -- a family that was learned in front of the refusal is held against a later key
  obtain ⟨f, hf⟩ := Option.ne_none_iff_exists'.mp hlearn.2
  have hlearned : g'[j]? = some (some f) := by
    rw [← hg', getElem?_accept_of_lt hk hj, hlearn.1, hf]
    rfl
  obtain ⟨later, hne⟩ := exists_verdicts_ne hlearn.1 hlearned
  exact hne (hsame later)

/-- A number where texts are expected, behind a column that stays NULL and in front of one that was
not looked at. -/
theorem refused_key_forgotten_behind_null :
    let o : RowOrder := [⟨0, .asc, .first⟩, ⟨1, .asc, .first⟩, ⟨2, .desc, .last⟩]
    let g := (new o).afterAll [[.null, .text "a", .null]]
    let key : Row := [.null, .int32 ⟨2, by decide⟩, .boolean true]
    let g' : TypeGuard := [none, some .text, none]
    g.accept key = (.error (.typeMismatch "text" "numeric"), g') ∧
      ∃ k, IsLeast {j | g.RefusesAt key j} k ∧ ((∀ j < k, ¬ g.LearnsAt key j) → g' = g) ∧
        ((∀ later, g'.verdicts later = g.verdicts later) ↔ ∀ j < k, ¬ g.LearnsAt key j) := by
  intro o g key g'
  have h : g.accept key = (.error (.typeMismatch "text" "numeric"), g') := by rfl
  exact ⟨h, refused_key_forgotten_iff h⟩

/-- A number in the first column is learned before the second one refuses the key, and then a text
is refused in its place. -/
theorem refused_key_not_forgotten : ¬ ∀ (o : RowOrder) (keys : List Row) (key : Row) (e : Failure)
    (g' : TypeGuard), ((new o).afterAll keys).accept key = (.error e, g') →
      ∀ later, g'.verdicts later = ((new o).afterAll keys).verdicts later := by
  intro h
  have hsame := h [⟨0, .asc, .first⟩, ⟨1, .asc, .first⟩] [[.null, .text "a"]]
    [.int64 ⟨1, by decide⟩, .int64 ⟨2, by decide⟩] _ _ rfl [[.text "x", .text "y"]]
  cases hsame

end Confluence.TypeGuard
