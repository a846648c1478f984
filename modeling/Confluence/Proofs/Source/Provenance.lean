import Confluence.Proofs.Notes
import Confluence.Proofs.Source.Lifecycle
import Mathlib.Data.Set.Basic

/-!
# Where failures come from

Leaves are watched: each keeps a log of the failures of its calls. A ledger says of two states what
the leaves below raised on the way from one to the other: nothing, or one failure that came up over
some shards. A source with a provenance accounts for its calls in a ledger. A call of it that gives
an answer raised nothing, and one that fails raised nothing, or fails with what a leaf raised, under
the notes of the shards between.
-/

namespace Confluence

/-- Where a failure comes from: the call that it was raised in, the shards that it passed, the last
of them first, and the failure as it was raised. -/
structure Origin where
  call : Stage
  route : List Hop
  failure : Failure

namespace Origin

/-- What is seen of a failure behind the shards that it passed. -/
def seen (o : Origin) : Failure := o.failure.prepend (notes o.route)

/-- The origin of a failure that passes one more shard. -/
def above (o : Origin) (number : Nat) : Origin := ⟨o.call, (o.call, number) :: o.route, o.failure⟩

lemma seen_above (o : Origin) (number : Nat) :
    (o.above number).seen = o.seen.prepend (Hop.note (o.call, number)) := by
  rw [seen, seen, Failure.prepend_prepend]
  rfl

end Origin

/-- What the leaves below a state raised on the way to another state. -/
structure Ledger (τ : Type) where
  Raised : Option Origin → τ → τ → Prop
  refl (t : τ) : Raised none t t
  trans {x : Option Origin} {t t' t'' : τ} : Raised none t t' → Raised x t' t'' → Raised x t t''
  after {x : Option Origin} {t t' t'' : τ} : Raised x t t' → Raised none t' t'' → Raised x t t''

namespace Ledger

/-- What the members of a list raised, at most one of them. -/
inductive RaisedIn {τ : Type} (L : Ledger τ) : Option Origin → List τ → List τ → Prop
  | nil : RaisedIn L none [] []
  | cons {x : Option Origin} {t t' : τ} {ts ts' : List τ} : L.Raised none t t' →
      RaisedIn L x ts ts' → RaisedIn L x (t :: ts) (t' :: ts')
  | here {o : Origin} {t t' : τ} {ts ts' : List τ} : L.Raised (some o) t t' →
      RaisedIn L none ts ts' → RaisedIn L (some o) (t :: ts) (t' :: ts')

variable {τ υ : Type} {L : Ledger τ} {M : Ledger υ} {A : Set Stage} {x : Option Origin}
  {e : Failure} {t t' t'' : τ} {u u' : υ} {ts ts' ts'' : List τ}

/-- A failure that no leaf raised, or that is what is seen of the one that a leaf raised in one of
some calls. -/
def Fails (L : Ledger τ) (A : Set Stage) (t : τ) (e : Failure) (t' : τ) : Prop :=
  L.Raised none t t' ∨ ∃ o, L.Raised (some o) t t' ∧ o.call ∈ A ∧ e = o.seen

lemma Fails.imp (h : L.Fails A t e t') (hraised : ∀ {x}, L.Raised x t t' → M.Raised x u u') :
    M.Fails A u e u' := by
  rcases h with h | ⟨o, h, ho, he⟩
  · exact Or.inl (hraised h)
  · exact Or.inr ⟨o, hraised h, ho, he⟩

lemma Fails.mono {B : Set Stage} (h : L.Fails A t e t') (hAB : A ⊆ B) : L.Fails B t e t' := by
  rcases h with h | ⟨o, h, ho, he⟩
  · exact Or.inl h
  · exact Or.inr ⟨o, h, hAB ho, he⟩

lemma Fails.behind (h : L.Raised none t t') (h' : L.Fails A t' e t'') : L.Fails A t e t'' :=
  h'.imp fun hraised => L.trans h hraised

lemma Fails.after (h : L.Fails A t e t') (h' : L.Raised none t' t'') : L.Fails A t e t'' :=
  h.imp fun hraised => L.after hraised h'

/-- A call that comes to an answer raised nothing. -/
def Tells {α : Type} (L : Ledger τ) (A : Set Stage) (t : τ) (x : Except Failure α × τ) : Prop :=
  Leaves (fun _ t' => L.Raised none t t') (L.Fails A t) x

lemma Tells.behind {α : Type} {x : Except Failure α × τ} (h : L.Raised none t t')
    (h' : L.Tells A t' x) : L.Tells A t x :=
  h'.imp (fun _ _ hraised => L.trans h hraised) fun _ _ hfails => hfails.behind h

/-! ### Lists -/

lemma raisedIn_refl (L : Ledger τ) (ts : List τ) : L.RaisedIn none ts ts := by
  induction ts with
  | nil => exact .nil
  | cons t ts ih => exact .cons (L.refl t) ih

lemma RaisedIn.trans (h : L.RaisedIn none ts ts') (h' : L.RaisedIn x ts' ts'') :
    L.RaisedIn x ts ts'' := by
  induction h' generalizing ts with
  | nil => exact h
  | cons ht _ ih =>
    cases h with
    | cons ht₀ hts₀ => exact .cons (L.trans ht₀ ht) (ih hts₀)
  | here ht _ ih =>
    cases h with
    | cons ht₀ hts₀ => exact .here (L.trans ht₀ ht) (ih hts₀)

lemma RaisedIn.after (h : L.RaisedIn x ts ts') (h' : L.RaisedIn none ts' ts'') :
    L.RaisedIn x ts ts'' := by
  induction h generalizing ts'' with
  | nil => exact h'
  | cons ht _ ih =>
    cases h' with
    | cons ht₁ hts₁ => exact .cons (L.after ht ht₁) (ih hts₁)
  | here ht _ ih =>
    cases h' with
    | cons ht₁ hts₁ => exact .here (L.after ht ht₁) (ih hts₁)

/-- What the members raised, each on its own. -/
lemma RaisedIn.forall₂ (h : L.RaisedIn x ts ts') :
    List.Forall₂ (fun t t' => ∃ y, L.Raised y t t' ∧ ∀ o ∈ y, x = some o) ts ts' := by
  induction h with
  | nil => exact .nil
  | cons ht _ ih => exact .cons ⟨none, ht, nofun⟩ ih
  | @here o t t' ts ts' ht _ ih =>
    refine .cons ⟨some o, ht, fun _ ho => ho⟩ (ih.imp ?_)
    rintro u u' ⟨y, hy, hnone⟩
    refine ⟨y, hy, fun o' ho' => ?_⟩
    cases hnone o' ho'

/-- The ledger of a list, of which at most one member raised something. -/
def list (L : Ledger τ) : Ledger (List τ) where
  Raised := L.RaisedIn
  refl := L.raisedIn_refl
  trans := .trans
  after := .after

lemma list_head (h : L.Raised x t t') (ts : List τ) : L.list.Raised x (t :: ts) (t' :: ts) := by
  cases x with
  | none => exact RaisedIn.cons h (L.raisedIn_refl ts)
  | some o => exact RaisedIn.here h (L.raisedIn_refl ts)

lemma list_tail (h : L.Raised none t t') (hts : L.list.Raised x ts ts') :
    L.list.Raised x (t :: ts) (t' :: ts') := RaisedIn.cons h hts

lemma list_set {k : Nat} (ht : ts[k]? = some t) (h : L.Raised x t t') :
    L.list.Raised x ts (ts.set k t') := by
  induction ts generalizing k with
  | nil => simp at ht
  | cons t₀ ts ih =>
    cases k with
    | zero =>
      rw [List.getElem?_cons_zero, Option.some.injEq] at ht
      subst ht
      exact list_head h ts
    | succ k => exact list_tail (L.refl t₀) (ih ht)

/-- Members that raised nothing. -/
lemma list_map {f : τ → τ} (hf : ∀ t, L.Raised none t (f t)) (ts : List τ) :
    L.list.Raised none ts (ts.map f) := by
  induction ts with
  | nil => exact RaisedIn.nil
  | cons t ts ih => exact RaisedIn.cons (hf t) ih

/-! ### Sources of either kind -/

/-- What a source of either kind raised. -/
def sum {α β : Type} (L : Ledger α) (M : Ledger β) : Ledger (α ⊕ β) where
  Raised x := Sum.LiftRel (L.Raised x) (M.Raised x)
  refl s := by
    cases s with
    | inl s => exact .inl (L.refl s)
    | inr s => exact .inr (M.refl s)
  trans h h' := by
    cases h with
    | inl h =>
      cases h' with
      | inl h' => exact .inl (L.trans h h')
    | inr h =>
      cases h' with
      | inr h' => exact .inr (M.trans h h')
  after h h' := by
    cases h with
    | inl h =>
      cases h' with
      | inl h' => exact .inl (L.after h h')
    | inr h =>
      cases h' with
      | inr h' => exact .inr (M.after h h')

/-! ### Shards -/

variable {σ : Type}

/-- What the leaves below a shard raised, seen above the shard. -/
def shard (L : Ledger σ) : Ledger (Shard σ) where
  Raised x s s' :=
    s'.number = s.number ∧ ∃ y, x = y.map (·.above s.number) ∧ L.Raised y s.source s'.source
  refl s := ⟨rfl, none, rfl, L.refl s.source⟩
  trans {x s s' s''} h h' := by
    obtain ⟨hnumber, y, hy, hsource⟩ := h
    obtain ⟨hnumber', y', hy', hsource'⟩ := h'
    obtain rfl := Option.map_eq_none_iff.mp hy.symm
    exact ⟨hnumber'.trans hnumber, y', by rw [hy', hnumber], L.trans hsource hsource'⟩
  after {x s s' s''} h h' := by
    obtain ⟨hnumber, y, hy, hsource⟩ := h
    obtain ⟨hnumber', y', hy', hsource'⟩ := h'
    obtain rfl := Option.map_eq_none_iff.mp hy'.symm
    exact ⟨hnumber'.trans hnumber, y, hy, L.after hsource hsource'⟩

end Ledger

/-- A ledger that accounts for the calls on a source. -/
structure Provenance (σ : Type) [RowSource σ] extends Ledger σ where
  advance (s : σ) : toLedger.Tells {.advance} s (RowSource.advance s)
  value (s : σ) (i : Nat) (t : SqlType) : toLedger.Tells {.read} s (RowSource.value s i t)
  close (s : σ) : Raised none s (RowSource.close s).2

namespace Provenance

/-- A source of either kind accounts for its calls as its kind does. -/
def sum {α β : Type} [RowSource α] [RowSource β] (V : Provenance α) (W : Provenance β) :
    Provenance (α ⊕ β) where
  toLedger := V.toLedger.sum W.toLedger
  advance s := by
    cases s with
    | inl s =>
      exact Leaves.map (f := Sum.inl)
        ((V.advance s).imp (fun _ _ h => Sum.LiftRel.inl h) fun _ _ h => h.imp Sum.LiftRel.inl)
    | inr s =>
      exact Leaves.map (f := Sum.inr)
        ((W.advance s).imp (fun _ _ h => Sum.LiftRel.inr h) fun _ _ h => h.imp Sum.LiftRel.inr)
  value s i t := by
    cases s with
    | inl s =>
      exact Leaves.map (f := Sum.inl)
        ((V.value s i t).imp (fun _ _ h => Sum.LiftRel.inl h) fun _ _ h => h.imp Sum.LiftRel.inl)
    | inr s =>
      exact Leaves.map (f := Sum.inr)
        ((W.value s i t).imp (fun _ _ h => Sum.LiftRel.inr h) fun _ _ h => h.imp Sum.LiftRel.inr)
  close s := by
    cases s with
    | inl s => exact Sum.LiftRel.inl (V.close s)
    | inr s => exact Sum.LiftRel.inr (W.close s)

/-! ### Shards -/

variable {σ : Type} [RowSource σ] (V : Provenance σ)

/-- A shard puts its note on what its source fails with. -/
lemma fails_shard (stage : Stage) {s s' : Shard σ} {e : Failure}
    (hnumber : s'.number = s.number) (h : V.Fails {stage} s.source e s'.source) :
    V.shard.Fails {stage} s (e.within (s.note stage.name)) s' := by
  rcases h with h | ⟨o, h, rfl, rfl⟩
  · exact Or.inl ⟨hnumber, none, rfl, h⟩
  · refine Or.inr ⟨o.above s.number, ⟨hnumber, some o, rfl, h⟩, rfl, ?_⟩
    rw [Shard.within_note, Origin.seen_above]

lemma advance_shard (s : Shard σ) : V.shard.Tells {.advance} s s.advance := by
  have hadv := V.advance s.source
  rw [Shard.advance]
  split
  · exact V.shard.refl s
  · split
    next source hs => exact ⟨rfl, none, rfl, hadv.of_eq_ok hs⟩
    next source hs => exact ⟨rfl, none, rfl, hadv.of_eq_ok hs⟩
    next e source hs => exact V.fails_shard .advance rfl (hadv.of_eq_error hs)

lemma value_shard (s : Shard σ) (i : Nat) (t : SqlType) :
    V.shard.Tells {.read} s (s.value i t) := by
  have hval := V.value s.source i t
  rw [Shard.value]
  split
  next c source hs => exact ⟨rfl, none, rfl, hval.of_eq_ok hs⟩
  next e source hs => exact V.fails_shard .read rfl (hval.of_eq_error hs)

lemma readColumns_shard (s : Shard σ) (columns : List Nat) :
    V.shard.Tells {.read} s (s.readColumns columns) := by
  induction columns generalizing s with
  | nil => exact V.shard.refl s
  | cons i columns ih =>
    have hval := V.value_shard s (i + 1) .any
    rw [Shard.readColumns]
    split
    next e s₁ hs => exact hval.of_eq_error hs
    next c s₁ hs =>
      have h₁ := hval.of_eq_ok hs
      have hread := ih s₁
      split
      next e s₂ hs₂ => exact (hread.of_eq_error hs₂).behind h₁
      next cs s₂ hs₂ => exact V.shard.trans h₁ (hread.of_eq_ok hs₂)

lemma close_shard (s : Shard σ) : V.shard.Raised none s s.close.2 := by
  rw [Shard.close]
  split
  · exact V.shard.refl s
  · exact ⟨rfl, none, rfl, V.close s.source⟩

end Provenance

/-! ### Watched leaves -/

/-- A leaf with a log of the failures that it was left with when it was advanced or read. The latest
one comes first. -/
structure Watched (ℓ : Type) where
  leaf : ℓ
  raised : List (Stage × Failure) := []

namespace Watched

variable {ℓ : Type}

/-- The log after a call. -/
def noting {α : Type} (stage : Stage) (r : Except Failure α) (w : Watched ℓ) :
    List (Stage × Failure) :=
  match r with
  | .ok _ => w.raised
  | .error e => (stage, e) :: w.raised

/-- A watched leaf answers as the leaf does. -/
instance [RowSource ℓ] : RowSource (Watched ℓ) where
  columnCount w := RowSource.columnCount w.leaf
  columnLabel w := RowSource.columnLabel w.leaf
  advance w :=
    let (r, leaf) := RowSource.advance w.leaf
    (r, ⟨leaf, w.noting .advance r⟩)
  value w i t :=
    let (r, leaf) := RowSource.value w.leaf i t
    (r, ⟨leaf, w.noting .read r⟩)
  wasNull w := RowSource.wasNull w.leaf
  close w :=
    let (r, leaf) := RowSource.close w.leaf
    (r, { w with leaf })
  remaining w := RowSource.remaining w.leaf
  remaining_advance_lt {w w'} h := by
    obtain ⟨h₁, rfl⟩ := Prod.mk.inj h
    exact RowSource.remaining_advance_lt (Prod.ext h₁ rfl)
  remaining_advance_le w := RowSource.remaining_advance_le w.leaf
  remaining_value_le w := RowSource.remaining_value_le w.leaf
  remaining_close_le w := RowSource.remaining_close_le w.leaf

/-- A watched leaf raised what is new in its log. -/
def ledger (ℓ : Type) : Ledger (Watched ℓ) where
  Raised
    | none, w, w' => w'.raised = w.raised
    | some o, w, w' => o.route = [] ∧ w'.raised = (o.call, o.failure) :: w.raised
  refl _ := rfl
  trans {x w w' w''} h h' := by
    cases x with
    | none => exact Eq.trans h' h
    | some o => exact ⟨h'.1, h'.2.trans (congrArg _ h)⟩
  after {x w w' w''} h h' := by
    cases x with
    | none => exact Eq.trans h' h
    | some o => exact ⟨h.1, Eq.trans h' h.2⟩

lemma tells_noting {α : Type} {stage : Stage} {r : Except Failure α} (w : Watched ℓ) (leaf : ℓ) :
    (ledger ℓ).Tells {stage} w (r, ⟨leaf, w.noting stage r⟩) := by
  cases r with
  | ok a => exact rfl
  | error e => exact Or.inr ⟨⟨stage, [], e⟩, ⟨rfl, rfl⟩, rfl, (Failure.prepend_empty e).symm⟩

/-- A watched leaf accounts for its calls by its log. -/
def provenance (ℓ : Type) [RowSource ℓ] : Provenance (Watched ℓ) where
  toLedger := ledger ℓ
  advance w := w.tells_noting (RowSource.advance w.leaf).2
  value w i t := w.tells_noting (RowSource.value w.leaf i t).2
  close _ := rfl

end Watched

end Confluence
