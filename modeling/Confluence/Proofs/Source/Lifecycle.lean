import Confluence.Source.Scripted
import Confluence.Source.Shard
import Mathlib.Data.List.Forall2
import Mathlib.Tactic.Common

/-!
# The life of a source

A source may be advanced until an advance comes to no row, read while it is on a row, and closed
once. What a kind of sources promises of the calls that reach it is a lifecycle: predicates for
the states of a source, and for each call the state that it asks for and the one that it leads to.
The shards around such sources keep to their lifecycle too.
-/

namespace Confluence

/-! ### Calls in order -/

namespace SourceCall

def isAdvance : SourceCall → Bool
  | .advance _ => true
  | .value | .close => false

/-- Whether a call may follow the calls in a log, the latest of which comes first. A value is read
on the row that the latest advance came to; nothing is advanced after it came to no row; and a
closed source is not called any more. -/
def Follows (log : List SourceCall) : SourceCall → Prop
  | .advance _ => .advance false ∉ log ∧ .close ∉ log
  | .value => log.find? isAdvance = some (.advance true) ∧ .close ∉ log
  | .close => .close ∉ log

/-- Calls, the latest first, of which each one may follow those before it. -/
def Orderly : List SourceCall → Prop
  | [] => True
  | call :: log => call.Follows log ∧ Orderly log

end SourceCall

/-! ### Answers and what they leave -/

/-- An answer leaves a state with one property, and a failure leaves one with another. -/
def Leaves {α τ : Type} (P : α → τ → Prop) (Q : Failure → τ → Prop) : Except Failure α × τ → Prop
  | (.ok a, t) => P a t
  | (.error e, t) => Q e t

section Leaves

variable {α τ : Type} {P : α → τ → Prop} {Q : Failure → τ → Prop} {x : Except Failure α × τ}

lemma leaves_of (hok : ∀ a, x.1 = .ok a → P a x.2) (herror : ∀ e, x.1 = .error e → Q e x.2) :
    Leaves P Q x := by
  rcases x with ⟨e | a, t⟩
  · exact herror e rfl
  · exact hok a rfl

lemma Leaves.of_eq_ok {a : α} {t : τ} (h : Leaves P Q x) (hx : x = (.ok a, t)) : P a t := by
  subst hx
  exact h

lemma Leaves.of_eq_error {e : Failure} {t : τ} (h : Leaves P Q x) (hx : x = (.error e, t)) :
    Q e t := by
  subst hx
  exact h

lemma Leaves.imp {P' : α → τ → Prop} {Q' : Failure → τ → Prop} (h : Leaves P Q x)
    (hP : ∀ a t, P a t → P' a t) (hQ : ∀ e t, Q e t → Q' e t) : Leaves P' Q' x := by
  rcases x with ⟨e | a, t⟩
  · exact hQ e t h
  · exact hP a t h

lemma Leaves.map {τ' : Type} {f : τ → τ'} {P' : α → τ' → Prop} {Q' : Failure → τ' → Prop}
    (h : Leaves (fun a t => P' a (f t)) (fun e t => Q' e (f t)) x) :
    Leaves P' Q' (x.1, f x.2) := by
  rcases x with ⟨e | a, t⟩
  · exact h
  · exact h

end Leaves

/-! ### Lifecycles -/

/-- The states of a kind of sources. All of them tell what a source stands for, which no call
changes. -/
structure Lifecycle (σ ι : Type) [RowSource σ] where
  /-- The source may be closed. -/
  Open : ι → σ → Prop
  /-- The source may be advanced. -/
  Ready : ι → σ → Prop
  /-- The source may be read. -/
  OnRow : ι → σ → Prop
  Closed : ι → σ → Prop
  open_of_ready {a : ι} {s : σ} : Ready a s → Open a s
  ready_of_onRow {a : ι} {s : σ} : OnRow a s → Ready a s
  advance {a : ι} {s : σ} : Ready a s →
    Leaves (fun b s' => Open a s' ∧ (b = true → OnRow a s')) (fun _ s' => Open a s')
      (RowSource.advance s)
  value {a : ι} {s : σ} (i : Nat) (t : SqlType) : OnRow a s →
    Leaves (fun _ s' => OnRow a s')
      (fun e s' => Open a s' ∧ (e.isTransient = false → OnRow a s')) (RowSource.value s i t)
  close {a : ι} {s : σ} : Open a s → Closed a (RowSource.close s).2

/-! ### Scripted sources -/

namespace ScriptedSource

/-- What a source was before it was called. -/
def origin (s : ScriptedSource) : ScriptedSource where
  memory := { labels := s.memory.labels, rows := s.memory.rows }
  script := s.script

variable (s : ScriptedSource)

lemma origin_advance : s.advance.2.origin = s.origin := by
  have hmemory : s.memory.advance.2.labels = s.memory.labels ∧
      s.memory.advance.2.rows = s.memory.rows := by
    rw [MemorySource.advance]
    split
    · exact ⟨rfl, rfl⟩
    · split <;> exact ⟨rfl, rfl⟩
  obtain ⟨hlabels, hrows⟩ := hmemory
  rw [advance]
  split
  · rfl
  · split <;> next hm =>
      rw [hm] at hlabels hrows
      simp only [origin, ← hlabels, ← hrows]

lemma origin_value (i : Nat) (t : SqlType) : (s.value i t).2.origin = s.origin := by
  rw [value]
  split
  · rfl
  · simp only [MemorySource.value]
    split <;> rfl

lemma origin_close : s.close.2.origin = s.origin := by
  rw [close]
  split <;> rfl

/-- An advance is noted together with whether it came to a row. -/
lemma exists_calls_advance :
    ∃ b, s.advance.2.calls = .advance b :: s.calls ∧ (s.advance.1 = .ok true → b = true) := by
  rw [advance]
  split
  · refine ⟨false, rfl, ?_⟩
    rintro ⟨⟩
  · split
    · exact ⟨true, rfl, fun _ => rfl⟩
    next r m hr hm => exact ⟨false, rfl, fun h => (hr h).elim⟩

lemma calls_value (i : Nat) (t : SqlType) : (s.value i t).2.calls = .value :: s.calls := by
  rw [value]
  split <;> rfl

lemma calls_close : s.close.2.calls = .close :: s.calls := by
  rw [close]
  split <;> rfl

/-- A leaf that was not closed. -/
structure IsOpen (s : ScriptedSource) : Prop where
  orderly : SourceCall.Orderly s.calls
  not_closed : .close ∉ s.calls

/-- A leaf that never came to the end of its rows or to a failure. -/
structure IsReady (s : ScriptedSource) : Prop extends s.IsOpen where
  not_ended : .advance false ∉ s.calls

/-- A leaf whose latest advance came to a row. -/
structure IsOnRow (s : ScriptedSource) : Prop extends s.IsReady where
  moved : s.calls.find? SourceCall.isAdvance = some (.advance true)

variable {s}

lemma IsReady.advance (h : s.IsReady) : s.advance.2.IsOpen := by
  obtain ⟨b, hcalls, -⟩ := s.exists_calls_advance
  constructor
  · rw [hcalls]
    exact ⟨⟨h.not_ended, h.not_closed⟩, h.orderly⟩
  · simp [hcalls, h.not_closed]

lemma IsReady.advance_true (h : s.IsReady) (hadv : s.advance.1 = .ok true) :
    s.advance.2.IsOnRow := by
  obtain ⟨b, hcalls, hb⟩ := s.exists_calls_advance
  obtain rfl := hb hadv
  refine ⟨⟨h.advance, ?_⟩, ?_⟩
  · simp [hcalls, h.not_ended]
  · simp [hcalls, SourceCall.isAdvance]

lemma IsOnRow.value (h : s.IsOnRow) (i : Nat) (t : SqlType) : (s.value i t).2.IsOnRow := by
  have hcalls := s.calls_value i t
  refine ⟨⟨⟨?_, ?_⟩, ?_⟩, ?_⟩
  · rw [hcalls]
    exact ⟨⟨h.moved, h.not_closed⟩, h.orderly⟩
  · simp [hcalls, h.not_closed]
  · simp [hcalls, h.not_ended]
  · simp [hcalls, SourceCall.isAdvance, h.moved]

lemma IsOpen.orderly_close (h : s.IsOpen) : SourceCall.Orderly s.close.2.calls := by
  rw [s.calls_close]
  exact ⟨h.not_closed, h.orderly⟩

lemma IsOpen.closes_close (h : s.IsOpen) : s.close.2.closes = 1 := by
  rw [closes, s.calls_close, List.count_cons_self, List.count_eq_zero.mpr h.not_closed]

/-- A leaf stands for what it was before it was called. -/
def lifecycle : Lifecycle ScriptedSource (List ScriptedSource) where
  Open a s := [s.origin] = a ∧ s.IsOpen
  Ready a s := [s.origin] = a ∧ s.IsReady
  OnRow a s := [s.origin] = a ∧ s.IsOnRow
  Closed a s := [s.origin] = a ∧ SourceCall.Orderly s.calls ∧ s.closes = 1
  open_of_ready h := ⟨h.1, h.2.toIsOpen⟩
  ready_of_onRow h := ⟨h.1, h.2.toIsReady⟩
  advance {a s} h := by
    obtain ⟨rfl, hs⟩ := h
    have horigin : [s.advance.2.origin] = [s.origin] := by rw [s.origin_advance]
    apply leaves_of
    · intro b hb
      exact ⟨⟨horigin, hs.advance⟩, fun hb' => ⟨horigin, hs.advance_true (hb' ▸ hb)⟩⟩
    · intro e _
      exact ⟨horigin, hs.advance⟩
  value {a s} i t h := by
    obtain ⟨rfl, hs⟩ := h
    have horigin : [(s.value i t).2.origin] = [s.origin] := by rw [s.origin_value]
    have hvalue := hs.value i t
    apply leaves_of
    · intro v _
      exact ⟨horigin, hvalue⟩
    · intro e _
      exact ⟨⟨horigin, hvalue.toIsOpen⟩, fun _ => ⟨horigin, hvalue⟩⟩
  close {a s} h := by
    obtain ⟨rfl, hs⟩ := h
    have horigin : [s.close.2.origin] = [s.origin] := by rw [s.origin_close]
    exact ⟨horigin, hs.orderly_close, hs.closes_close⟩

end ScriptedSource

/-! ### Sources of either kind -/

namespace Lifecycle

section Sum

variable {α β ι : Type} [RowSource α] [RowSource β]

/-- A source of either kind lives as its kind does. -/
def sum (L : Lifecycle α ι) (M : Lifecycle β ι) : Lifecycle (α ⊕ β) ι where
  Open a := Sum.elim (L.Open a) (M.Open a)
  Ready a := Sum.elim (L.Ready a) (M.Ready a)
  OnRow a := Sum.elim (L.OnRow a) (M.OnRow a)
  Closed a := Sum.elim (L.Closed a) (M.Closed a)
  open_of_ready {_ s} h := by
    cases s with
    | inl s => exact L.open_of_ready h
    | inr s => exact M.open_of_ready h
  ready_of_onRow {_ s} h := by
    cases s with
    | inl s => exact L.ready_of_onRow h
    | inr s => exact M.ready_of_onRow h
  advance {_ s} h := by
    cases s with
    | inl s => exact (L.advance h).map (f := Sum.inl)
    | inr s => exact (M.advance h).map (f := Sum.inr)
  value {_ s} i t h := by
    cases s with
    | inl s => exact (L.value i t h).map (f := Sum.inl)
    | inr s => exact (M.value i t h).map (f := Sum.inr)
  close {_ s} h := by
    cases s with
    | inl s => exact L.close h
    | inr s => exact M.close h

end Sum

/-! ### Shards -/

variable {σ ι : Type} [RowSource σ] (L : Lifecycle σ ι)

/-- A shard that may be closed, or is already. It has the number that comes with what it stands
for. -/
structure OpenShard (p : ι × Nat) (s : Shard σ) : Prop where
  number_eq : s.number = p.2
  of_closed : s.closed = true → L.Closed p.1 s.source
  of_not_closed : s.closed = false → L.Open p.1 s.source

/-- A shard that may be advanced, which reaches its source only while there may be a row. -/
structure ReadyShard (p : ι × Nat) (s : Shard σ) : Prop extends L.OpenShard p s where
  ready : s.closed = false → s.exhausted = false → L.Ready p.1 s.source

/-- A shard that may be read. -/
structure OnRowShard (p : ι × Nat) (s : Shard σ) : Prop where
  number_eq : s.number = p.2
  not_closed : s.closed = false
  not_exhausted : s.exhausted = false
  onRow : L.OnRow p.1 s.source

structure ClosedShard (p : ι × Nat) (s : Shard σ) : Prop where
  number_eq : s.number = p.2
  closed : s.closed = true
  source : L.Closed p.1 s.source

variable {L} {p : ι × Nat} {s : Shard σ}

lemma OnRowShard.readyShard (h : L.OnRowShard p s) : L.ReadyShard p s where
  number_eq := h.number_eq
  of_closed hc := by
    rw [h.not_closed] at hc
    cases hc
  of_not_closed _ := L.open_of_ready (L.ready_of_onRow h.onRow)
  ready _ _ := L.ready_of_onRow h.onRow

lemma ReadyShard.advance (h : L.ReadyShard p s) :
    Leaves (fun b s' => L.ReadyShard p s' ∧ (b = true → L.OnRowShard p s'))
      (fun _ s' => L.OpenShard p s') s.advance := by
  rw [Shard.advance]
  split
  · refine ⟨h, ?_⟩
    rintro ⟨⟩
  next hlive =>
    simp only [Bool.or_eq_true, not_or, Bool.not_eq_true] at hlive
    obtain ⟨hex, hclosed⟩ := hlive
    have hadv := L.advance (h.ready hclosed hex)
    have hof {s' : σ} : s.closed = true → L.Closed p.1 s' := by
      rw [hclosed]
      rintro ⟨⟩
    split
    next source hs =>
      obtain ⟨hopen, hrow⟩ := hadv.of_eq_ok hs
      have hrow' : L.OnRowShard p { s with source } := ⟨h.number_eq, hclosed, hex, hrow rfl⟩
      exact ⟨hrow'.readyShard, fun _ => hrow'⟩
    next source hs =>
      obtain ⟨hopen, -⟩ := hadv.of_eq_ok hs
      refine ⟨⟨⟨h.number_eq, hof, fun _ => hopen⟩, ?_⟩, ?_⟩
      · rintro - ⟨⟩
      · rintro ⟨⟩
    next e source hs =>
      exact ⟨h.number_eq, hof, fun _ => hadv.of_eq_error hs⟩

lemma OnRowShard.value (h : L.OnRowShard p s) (i : Nat) (t : SqlType) :
    Leaves (fun _ s' => L.OnRowShard p s')
      (fun e s' => L.OpenShard p s' ∧ (e.isTransient = false → L.OnRowShard p s'))
      (s.value i t) := by
  have hval := L.value i t h.onRow
  rw [Shard.value]
  split
  next c source hs =>
    exact ⟨h.number_eq, h.not_closed, h.not_exhausted, hval.of_eq_ok hs⟩
  next e source hs =>
    obtain ⟨hopen, hrow⟩ := hval.of_eq_error hs
    constructor
    · refine ⟨h.number_eq, fun hc => ?_, fun _ => hopen⟩
      rw [h.not_closed] at hc
      cases hc
    · intro htransient
      rw [Failure.isTransient_within] at htransient
      exact ⟨h.number_eq, h.not_closed, h.not_exhausted, hrow htransient⟩

lemma OnRowShard.readColumns (h : L.OnRowShard p s) (columns : List Nat) :
    Leaves (fun _ s' => L.OnRowShard p s') (fun _ s' => L.OpenShard p s')
      (s.readColumns columns) := by
  induction columns generalizing s with
  | nil => exact h
  | cons i columns ih =>
    have hval := h.value (i + 1) .any
    rw [Shard.readColumns]
    split
    next e s₁ hs => exact (hval.of_eq_error hs).1
    next c s₁ hs =>
      have hread := ih (hval.of_eq_ok hs)
      split
      next e s₂ hs₂ => exact hread.of_eq_error hs₂
      next cs s₂ hs₂ => exact hread.of_eq_ok hs₂

lemma OpenShard.close (h : L.OpenShard p s) : L.ClosedShard p s.close.2 := by
  rw [Shard.close]
  split
  next hclosed => exact ⟨h.number_eq, hclosed, h.of_closed hclosed⟩
  next hclosed =>
    rw [Bool.not_eq_true] at hclosed
    exact ⟨h.number_eq, rfl, L.close (h.of_not_closed hclosed)⟩

end Lifecycle

end Confluence
