import Confluence.Sort.Guard
import Confluence.Source.Shard

/-!
# Ordered merge of shards

The rows of shards that are sorted alike, in one order. Every shard sits on a row whose key waits
among the heads; the least head gives the next row, and only its shard moves on. Of equal keys the
one of the earlier shard comes first.
-/

namespace Confluence

/-- The sort key of the row that a shard sits on. -/
structure Head where
  key : Row
  shard : Nat

/-- Whether a head comes before another one. -/
def Head.precedes (o : RowOrder) (a b : Head) : Bool :=
  (o.compareKeys a.key b.key).then (compare a.shard b.shard) == .lt

/-- The least of some heads, and the others. -/
def Head.takeLeast (o : RowOrder) (h : Head) : List Head → Head × List Head
  | [] => (h, [])
  | x :: xs =>
    if x.precedes o h then
      let (least, rest) := takeLeast o x xs
      (least, h :: rest)
    else
      let (least, rest) := takeLeast o h xs
      (least, x :: rest)

structure OrderedMerge where
  order : RowOrder
  guard : TypeGuard
  heads : List Head := []
  /-- Whether the shards were moved to their first rows. -/
  started : Bool := false
  current : Option Nat := none

namespace OrderedMerge

variable {σ : Type} [RowSource σ]

def new (o : RowOrder) : OrderedMerge := { order := o, guard := .new o }

/-- Move a shard to its next row and put the key of that row among the heads. -/
def pushHead (m : OrderedMerge) (s : Shard σ) : Except Failure Unit × OrderedMerge × Shard σ :=
  match s.advance with
  | (.error e, s) => (.error e, m, s)
  | (.ok false, s) => (.ok (), m, s)
  | (.ok true, s) =>
    match s.readColumns m.order.columns with
    | (.error e, s) => (.error e, m, s)
    | (.ok key, s) =>
      match m.guard.accept key with
      | (.error e, guard) => (.error e, { m with guard }, s)
      | (.ok (), guard) =>
        (.ok (), { m with guard, heads := ⟨key, s.number⟩ :: m.heads }, s)

/-- Push the heads of several shards, up to the first failure. -/
def pushHeads (m : OrderedMerge) :
    List (Shard σ) → Except Failure Unit × OrderedMerge × List (Shard σ)
  | [] => (.ok (), m, [])
  | s :: ss =>
    match m.pushHead s with
    | (.error e, m, s) => (.error e, m, s :: ss)
    | (.ok (), m, s) =>
      match m.pushHeads ss with
      | (r, m, ss) => (r, m, s :: ss)

/-- Push the head of one of the shards. -/
def pushHeadAt (m : OrderedMerge) (k : Nat) (ss : List (Shard σ)) :
    Except Failure Unit × OrderedMerge × List (Shard σ) :=
  match ss[k]? with
  | none => (.ok (), m, ss)
  | some s =>
    match m.pushHead s with
    | (r, m, s) => (r, m, ss.set k s)

/-- Move every shard that sits on no waiting head: all of them at the start, then the one whose row
went out last. -/
def refill (m : OrderedMerge) (ss : List (Shard σ)) :
    Except Failure Unit × OrderedMerge × List (Shard σ) :=
  if m.started then
    match m.current with
    | some k => { m with current := none }.pushHeadAt k ss
    | none => (.ok (), m, ss)
  else { m with started := true }.pushHeads ss

/-- Move to the next row. -/
def advance (m : OrderedMerge) (ss : List (Shard σ)) :
    Except Failure Bool × OrderedMerge × List (Shard σ) :=
  match m.refill ss with
  | (.error e, m, ss) => (.error e, m, ss)
  | (.ok (), m, ss) =>
    match m.heads with
    | [] => (.ok false, { m with current := none }, ss)
    | h :: hs =>
      let (least, heads) := h.takeLeast m.order hs
      (.ok true, { m with heads, current := some least.shard }, ss)

/-! ### Rows to come -/

/-- A bound on the rows still to come: those of the shards, and the heads. -/
def pending (m : OrderedMerge) (ss : List (Shard σ)) : Nat :=
  m.heads.length + Shard.totalRemaining ss

theorem length_takeLeast (o : RowOrder) (h : Head) (hs : List Head) :
    (h.takeLeast o hs).2.length = hs.length := by
  induction hs generalizing h with
  | nil => rfl
  | cons x xs ih =>
    rw [Head.takeLeast]
    split <;> simp [ih]

theorem pending_pushHead_le (m : OrderedMerge) (s : Shard σ) :
    (m.pushHead s).2.1.heads.length + (m.pushHead s).2.2.remaining ≤
      m.heads.length + s.remaining := by
  have hle := s.remaining_advance_le
  rw [pushHead]
  split
  next e s' h => rw [h] at hle; exact Nat.add_le_add_left hle _
  next s' h => rw [h] at hle; exact Nat.add_le_add_left hle _
  next s' h =>
    have hlt := Shard.remaining_advance_lt h
    have hr := s'.remaining_readColumns_le m.order.columns
    split
    next e s'' h' => simp only [h'] at hr; simp only; omega
    next key s'' h' =>
      simp only [h'] at hr
      split
      · simp only; omega
      · simp only [List.length_cons]; omega

theorem pending_pushHeads_le (m : OrderedMerge) (ss : List (Shard σ)) :
    (m.pushHeads ss).2.1.pending (m.pushHeads ss).2.2 ≤ m.pending ss := by
  unfold pending
  induction ss generalizing m with
  | nil => simp [pushHeads]
  | cons s ss ih =>
    have h := m.pending_pushHead_le s
    rw [pushHeads]
    split
    next e m' s' hp =>
      simp only [hp] at h
      simp only [Shard.totalRemaining_cons]
      omega
    next m' s' hp =>
      have := ih m'
      simp only [hp] at h
      rcases hq : m'.pushHeads ss with ⟨r, m'', ss'⟩
      simp only [hq] at this
      simp only [Shard.totalRemaining_cons]
      omega

theorem pending_pushHeadAt_le (m : OrderedMerge) (k : Nat) (ss : List (Shard σ)) :
    (m.pushHeadAt k ss).2.1.pending (m.pushHeadAt k ss).2.2 ≤ m.pending ss := by
  unfold pushHeadAt pending
  split
  · exact Nat.le_refl _
  next s hs =>
    have h := m.pending_pushHead_le s
    rcases hp : m.pushHead s with ⟨r, m', s'⟩
    have ht := Shard.totalRemaining_set s' hs
    simp only [hp] at h
    simp only
    omega

theorem pending_refill_le (m : OrderedMerge) (ss : List (Shard σ)) :
    (m.refill ss).2.1.pending (m.refill ss).2.2 ≤ m.pending ss := by
  rw [refill]
  split
  · split
    · exact pending_pushHeadAt_le { m with current := none } _ _
    · exact Nat.le_refl _
  · exact pending_pushHeads_le { m with started := true } _

theorem pending_advance_le (m : OrderedMerge) (ss : List (Shard σ)) :
    (m.advance ss).2.1.pending (m.advance ss).2.2 ≤ m.pending ss := by
  have h := m.pending_refill_le ss
  rw [advance]
  split
  next e m' ss' hr => simp only [hr] at h; exact h
  next m' ss' hr =>
    simp only [hr] at h
    split
    · exact h
    next x xs hx =>
      have hl := length_takeLeast m'.order x xs
      simp only [pending, hx, List.length_cons] at h ⊢
      omega

theorem pending_advance_lt {m m' : OrderedMerge} {ss ss' : List (Shard σ)}
    (h : m.advance ss = (.ok true, m', ss')) : m'.pending ss' < m.pending ss := by
  have hle := m.pending_refill_le ss
  rw [advance] at h
  split at h
  · cases h
  next m₁ ss₁ hr =>
    simp only [hr] at hle
    split at h
    · cases h
    next x xs hx =>
      cases h
      have hl := length_takeLeast m₁.order x xs
      simp only [pending, hx, List.length_cons] at hle ⊢
      omega

end OrderedMerge

end Confluence
