import Confluence.Merge.Strategy
import Confluence.Proofs.Source.View

/-!
# Runs of a merge

The rows that come out of a merge one after the other, with the failure that ends them, if one
does. Each step is a call to advance, and the row is read where the merge says that it is. Over
sources with a view a row can be read as often as one likes before the merge is moved on.
-/

namespace Confluence

lemma getElem?_append_cons {α : Type} {xs ys : List α} {x : α} {k : Nat} (h : xs.length = k) :
    (xs ++ x :: ys)[k]? = some x := by
  rw [← h, List.getElem?_append_right (Nat.le_refl _), Nat.sub_self, List.getElem?_cons_zero]

lemma set_append_cons {α : Type} {xs ys : List α} {x : α} {k : Nat} (h : xs.length = k) (x' : α) :
    (xs ++ x :: ys).set k x' = xs ++ x' :: ys := by
  rw [← h, List.set_append_right _ _ (Nat.le_refl _), Nat.sub_self, List.set_cons_zero]

namespace Merger

variable {σ : Type} [RowSource σ]

/-- The row that a merge is on and the shards once it was read: the merge holds a copy, or one of
the shards sits on it. -/
inductive Shows (columnCount : Nat) :
    Merger → List (Shard σ) → Row → List (Shard σ) → Prop
  | copy {m ss r} : m.current = some (.row r) → r.length = columnCount →
      Shows columnCount m ss r ss
  | shard {m k ss s r s'} : m.current = some (.shard k) → ss[k]? = some s →
      s.readRow columnCount = (.ok r, s') → Shows columnCount m ss r (ss.set k s')

/-- The rows of a merge up to its end, or up to a failure to advance. -/
inductive Emits (columnCount : Nat) :
    Merger → List (Shard σ) → List Row → Option Failure → Prop
  | failed {m ss e} : (m.advance ss).1 = .error e → Emits columnCount m ss [] (some e)
  | ended {m ss} : (m.advance ss).1 = .ok false → Emits columnCount m ss [] none
  | row {m ss m' ss' r ss'' rows e} : m.advance ss = (.ok true, m', ss') →
      Shows columnCount m' ss' r ss'' → Emits columnCount m' ss'' rows e →
      Emits columnCount m ss (r :: rows) e

/-! ### Over sources with a view -/

variable (V : SourceView σ)

/-- A merge sits on a row, and `P` holds of its shards however often the row is read. -/
inductive Sits (m : Merger) (r : Row) (P : List (Shard σ) → Prop) : List (Shard σ) → Prop
  | copy {ss} : m.current = some (.row r) → r.length = V.width → P ss → Sits m r P ss
  | shard {k ss₁ s ss₂ q} : m.current = some (.shard k) → ss₁.length = k →
      V.ShowsShard k s (some r) q → (∀ s', V.ShowsShard k s' (some r) q → P (ss₁ ++ s' :: ss₂)) →
      Sits m r P (ss₁ ++ s :: ss₂)

/-- The rows that a merge delivers up to its end, or up to a failure, however often each of them is
read. -/
def Delivers (e : Option Failure) : List Row → Merger → List (Shard σ) → Prop
  | [], m, ss => (m.advance ss).1 = match e with
    | none => .ok false
    | some e => .error e
  | r :: rows, m, ss => ∃ m' ss', m.advance ss = (.ok true, m', ss') ∧
      m'.Sits V r (Delivers e rows m') ss'

variable {V} {m : Merger} {r : Row} {P Q : List (Shard σ) → Prop} {ss : List (Shard σ)}

lemma Sits.imp (h : m.Sits V r P ss) (hPQ : ∀ ss, P ss → Q ss) : m.Sits V r Q ss := by
  cases h with
  | copy hm hr hp => exact .copy hm hr (hPQ _ hp)
  | shard hm hk hs hp => exact .shard hm hk hs fun s' hs' => hPQ _ (hp s' hs')

/-- Before the row is read, too. -/
lemma Sits.holds (h : m.Sits V r P ss) : P ss := by
  cases h with
  | copy _ _ hp => exact hp
  | shard _ _ hs hp => exact hp _ hs

lemma Sits.length_eq (h : m.Sits V r P ss) : r.length = V.width := by
  cases h with
  | copy _ hr _ => exact hr
  | shard _ _ hs _ => exact hs.length_eq

/-- A merge that sits on a row shows it, and stays where it is. -/
lemma Sits.exists_shows (h : m.Sits V r P ss) : ∃ ss', m.Shows V.width ss r ss' ∧ P ss' := by
  cases h with
  | copy hm hr hp => exact ⟨ss, .copy hm hr, hp⟩
  | @shard k ss₁ s ss₂ q hm hk hs hp =>
    obtain ⟨s', hread, hs'⟩ := hs.readRow
    refine ⟨ss₁ ++ s' :: ss₂, ?_, hp s' hs'⟩
    rw [← set_append_cons hk s']
    exact .shard hm (getElem?_append_cons hk) hread

/-- What a merge delivers is what comes out of it. -/
lemma Delivers.emits {e : Option Failure} {rows : List Row} (h : m.Delivers V e rows ss) :
    m.Emits V.width ss rows e := by
  induction rows generalizing m ss with
  | nil =>
    cases e with
    | none => exact .ended h
    | some e => exact .failed h
  | cons r rows ih =>
    obtain ⟨m', ss', hadv, hsits⟩ := h
    obtain ⟨ss'', hshows, hrest⟩ := hsits.exists_shows
    exact .row hadv hshows (ih hrest)

end Merger

end Confluence
