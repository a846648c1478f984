import Confluence.Proofs.Cursor.Promises
import Confluence.Proofs.Merge.Provenance

/-!
# Where failures of cursors come from

Whatever a client calls, a cursor stops at the first failure of a shard, closes its shards if it has
to, and fails with that failure. A read makes nothing but reads. So a cursor accounts for its calls
as its sources do, and it can be a source itself.
-/

namespace Confluence

namespace Ledger

variable {τ υ α : Type} {L : Ledger τ} {A : Set Stage} {t : τ}

/-- What a part of a state raised. -/
def comap (f : υ → τ) (L : Ledger τ) : Ledger υ where
  Raised x u u' := L.Raised x (f u) (f u')
  refl u := L.refl (f u)
  trans := L.trans
  after := L.after

/-- What the calls that are made below a call raised. A read makes only reads. -/
def called (L : Ledger τ) : Ledger τ where
  Raised
    | none, t, t' => L.Raised none t t'
    | some o, t, t' => ∃ call, (o.call = .read → call = .read) ∧
        L.Raised (some ⟨call, o.route, o.failure⟩) t t'
  refl := L.refl
  trans {x t t' t''} h h' := by
    cases x with
    | none => exact L.trans h h'
    | some o =>
      obtain ⟨call, hcall, h'⟩ := h'
      exact ⟨call, hcall, L.trans h h'⟩
  after {x t t' t''} h h' := by
    cases x with
    | none => exact L.after h h'
    | some o =>
      obtain ⟨call, hcall, h⟩ := h
      exact ⟨call, hcall, L.after h h'⟩

lemma Tells.called {x : Except Failure α × τ} (h : L.Tells A t x) {call : Stage}
    (hcall : call = .read → A ⊆ {.read}) : L.called.Tells {call} t x := by
  refine Leaves.imp h (fun _ _ hraised => hraised) ?_
  rintro e t' (hraised | ⟨o, hraised, ho, rfl⟩)
  · exact Or.inl hraised
  · have hread : call = .read → o.call = .read := fun h => hcall h ho
    exact Or.inr ⟨⟨call, o.route, o.failure⟩, ⟨o.call, hread, hraised⟩, rfl, rfl⟩

lemma tells_self (r : Except Failure α) (t : τ) : L.Tells A t (r, t) := by
  cases r with
  | ok a => exact L.refl t
  | error e => exact Or.inl (L.refl t)

/-- What a call raised is what it fails with. -/
lemma Tells.exists_raised {x : Except Failure α × τ} (h : L.Tells A t x) :
    ∃ y, L.Raised y t x.2 ∧ ∀ o ∈ y, x.1 = .error o.seen ∧ o.call ∈ A := by
  rcases x with ⟨e | a, t'⟩
  · rcases h with h | ⟨o, h, ho, rfl⟩
    · exact ⟨none, h, nofun⟩
    · refine ⟨some o, h, ?_⟩
      rintro o' ⟨⟩
      exact ⟨rfl, ho⟩
  · exact ⟨none, h, nofun⟩

end Ledger

namespace Provenance

variable {σ : Type} [RowSource σ] (V : Provenance σ)

/-- What the shards of a cursor raised. -/
def below (V : Provenance σ) : Ledger (Cursor σ) := V.shard.list.comap Cursor.shards

/-- What the source of each shard raised, beside what the shards of a cursor raised. -/
lemma forall₂_of_below {x : Option Origin} {c c' : Cursor σ} (h : V.below.Raised x c c') :
    List.Forall₂ (fun s s' => s'.number = s.number ∧
      ∃ y, V.Raised y s.source s'.source ∧ ∀ o ∈ y, x = some (o.above s.number))
      c.shards c'.shards := by
  refine (Ledger.RaisedIn.forall₂ h).imp ?_
  rintro s s' ⟨_, ⟨hnumber, y, rfl, hsource⟩, hx⟩
  refine ⟨hnumber, y, hsource, ?_⟩
  rintro o rfl
  exact hx _ rfl

/-! ### Closing -/

lemma closeShards (ss : List (Shard σ)) :
    V.shard.list.Raised none ss (Cursor.closeShards ss).2 := by
  rw [Lifecycle.closeShards_eq_map]
  exact Ledger.list_map V.close_shard ss

lemma shut (c : Cursor σ) : V.below.Raised none c c.shut.2 := V.closeShards c.shards

lemma close_cursor (c : Cursor σ) : V.below.Raised none c c.close.2 := by
  have hshut := V.shut c
  rw [Cursor.close]
  split
  next c₁ hc => rwa [hc] at hshut
  next e c₁ hc => rwa [hc] at hshut

/-! ### Advancing -/

lemma drawInWindow (c : Cursor σ) : V.below.Tells .univ c c.drawInWindow := by
  rw [Cursor.drawInWindow]
  split
  · refine Leaves.map (f := fun t : Merger × List (Shard σ) =>
      { c with merger := t.1, shards := t.2 }) ?_
    exact V.advanceMerger c.merger c.shards
  next p hp =>
    -- every row that is drawn is drawn behind rows that raised nothing
    have hdraw {t : Merger × List (Shard σ)} (ht : V.shard.list.Raised none c.shards t.2) :
        Leaves (fun b t' => V.shard.list.Raised none c.shards t'.2 ∧ (b = true → True))
          (fun e t' => V.shard.list.Fails .univ c.shards e t'.2) (Cursor.draw t) :=
      ((V.advanceMerger t.1 t.2).behind ht).imp (fun _ _ h => ⟨h, fun _ => trivial⟩)
        fun _ _ h => h
    refine Leaves.map (f := fun t : Window × Merger × List (Shard σ) =>
      { c with
        merger := t.2.1, shards := t.2.2, pagination := some { p with window := t.1 } }) ?_
    exact (Window.advance_leaves hdraw p.window (t := (c.merger, c.shards))
      (V.shard.list.refl c.shards)).imp (fun _ _ h => h.1) fun _ _ h => h

lemma advance_cursor (c : Cursor σ) : V.below.Tells .univ c c.advance := by
  have hdraw := V.drawInWindow c
  rw [Cursor.advance]
  split
  · exact Ledger.tells_self _ c
  · exact Ledger.tells_self _ c
  all_goals
    split
    next c₁ hc =>
      have h₁ := hdraw.of_eq_ok hc
      exact h₁
    next c₁ hc =>
      have h₁ := hdraw.of_eq_ok hc
      exact h₁
    next e c₁ hc =>
      have hfails := (hdraw.of_eq_error hc).after (V.shut c₁)
      exact hfails

/-! ### Reading -/

lemma readAt (m : Merger) (i : Nat) (t : SqlType) (ss : List (Shard σ)) :
    V.shard.list.Tells {.read} ss (Cursor.readAt m i t ss) := by
  rw [Cursor.readAt]
  split
  next k hk =>
    split
    next s hs =>
      refine Leaves.map (f := ss.set k) ?_
      exact (V.value_shard s i t).imp (fun _ _ h => Ledger.list_set hs h) fun _ _ h => h.set hs
    · exact Ledger.tells_self _ ss
  · exact Ledger.tells_self _ ss
  · exact Ledger.tells_self _ ss

lemma readColumn (c : Cursor σ) (i : Nat) (t : SqlType) :
    V.below.Tells {.read} c (c.readColumn i t) := by
  have hcurrent : V.below.Tells {.read} c (c.readCurrent i t) := by
    rw [Cursor.readCurrent_eq]
    refine Leaves.map (f := fun shards => { c with shards }) ?_
    exact V.readAt c.merger i t c.shards
  rw [Cursor.readColumn]
  split
  · split
    · exact Ledger.tells_self _ c
    · exact hcurrent
  · exact hcurrent

lemma value_cursor (c : Cursor σ) (i : Nat) (t : SqlType) :
    V.below.Tells {.read} c (c.value i t) := by
  have hread := V.readColumn c i t
  rw [Cursor.value]
  split
  · exact Ledger.tells_self _ c
  · exact Ledger.tells_self _ c
  · exact Ledger.tells_self _ c
  · split
    · exact Ledger.tells_self _ c
    · split
      next v c₁ hc =>
        have h₁ := hread.of_eq_ok hc
        exact h₁
      next e c₁ hc =>
        have hfails := hread.of_eq_error hc
        split
        · exact hfails.after (V.shut c₁)
        · exact hfails

lemma valueByLabel (c : Cursor σ) (label : String) (t : SqlType) :
    V.below.Tells {.read} c (c.valueByLabel label t) := by
  rw [Cursor.valueByLabel]
  split
  next i hi => exact V.value_cursor c i t
  · exact Ledger.tells_self _ c

lemma readFrom (c : Cursor σ) (first n : Nat) :
    V.below.Tells {.read} c (c.readFrom first n) := by
  induction n generalizing c first with
  | zero => exact Ledger.tells_self _ c
  | succ n ih =>
    have hval := V.value_cursor c first .any
    rw [Cursor.readFrom]
    split
    next e c₁ hc => exact hval.of_eq_error hc
    next v c₁ hc =>
      have h₁ := hval.of_eq_ok hc
      have hrest := ih c₁ (first + 1)
      split
      next e c₂ hc₂ => exact (hrest.of_eq_error hc₂).behind h₁
      next vs c₂ hc₂ => exact V.below.trans h₁ (hrest.of_eq_ok hc₂)

/-! ### Cursors as sources -/

/-- A cursor accounts for its calls by what its shards raised. -/
def cursor (V : Provenance σ) : Provenance (Cursor σ) where
  toLedger := V.below.called
  advance c := (V.advance_cursor c).called nofun
  value c i t := (V.value_cursor c i t).called fun _ => subset_rfl
  close c := V.close_cursor c

lemma exists_below {x : Option Origin} {c c' : Cursor σ} (h : V.cursor.Raised x c c') :
    ∃ y, V.below.Raised y c c' ∧ ∀ o ∈ y, ∃ o' ∈ x,
      o'.route = o.route ∧ o'.failure = o.failure ∧ (o'.call = .read → o.call = .read) := by
  cases x with
  | none => exact ⟨none, h, nofun⟩
  | some o' =>
    obtain ⟨call, hcall, hraised⟩ := h
    refine ⟨_, hraised, ?_⟩
    rintro o ⟨⟩
    exact ⟨o', rfl, rfl, rfl, hcall⟩

/-! ### Clients -/

/-- What a call of a client raised is what it fails with, and only an advance is more than a
read. -/
theorem exists_raised_of_answer (c : Cursor σ) (call : ClientCall) :
    ∃ x, V.below.Raised x c (c.answer call).2 ∧ ∀ o ∈ x,
      (c.answer call).1.failure? = some o.seen ∧ (call ≠ .advance → o.call = .read) := by
  have hnone {P : Origin → Prop} : ∀ o ∈ (none : Option Origin), P o := fun o ho =>
    absurd ho (Option.not_mem_none o)
  have hread {α : Type} {x : Except Failure α × Cursor σ} {answer : Except Failure α → ClientAnswer}
      (h : V.below.Tells {.read} c x) (hanswer : ∀ e, (answer (.error e)).failure? = some e) :
      ∃ y, V.below.Raised y c x.2 ∧ ∀ o ∈ y,
        (answer x.1).failure? = some o.seen ∧ (call ≠ .advance → o.call = .read) := by
    obtain ⟨y, hy, hseen⟩ := h.exists_raised
    refine ⟨y, hy, fun o ho => ?_⟩
    obtain ⟨herror, hcall⟩ := hseen o ho
    exact ⟨by rw [herror, hanswer], fun _ => hcall⟩
  cases call with
  | advance =>
    obtain ⟨y, hy, hseen⟩ := (V.advance_cursor c).exists_raised
    refine ⟨y, hy, fun o ho => ⟨?_, fun h => absurd rfl h⟩⟩
    rw [Cursor.answer, (hseen o ho).1]
    rfl
  | value i t => exact hread (V.value_cursor c i t) fun _ => rfl
  | valueByLabel label t => exact hread (V.valueByLabel c label t) fun _ => rfl
  | currentRow => exact hread (V.readFrom c 1 c.columnCount) fun _ => rfl
  | wasNull => exact ⟨none, V.below.refl c, hnone⟩
  | close => exact ⟨none, V.close_cursor c, hnone⟩
  | drop => exact ⟨none, V.closeShards c.shards, hnone⟩

end Provenance

end Confluence
