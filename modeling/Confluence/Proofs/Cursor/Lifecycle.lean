import Confluence.Cursor.Open
import Confluence.Cursor.Session
import Confluence.Proofs.Merge.Lifecycle

/-!
# Cursors keep to the lifecycle of their sources

Whatever a client calls, a cursor advances its merge only between its first call and the end of its
rows, reads only where the merge says that its row is, and closes each shard once. So a cursor may
be called at any time, and it has a lifecycle itself: what it stands for is what its shards stand
for.
-/

namespace Confluence

namespace Window

variable {τ : Type} {next : τ → Except Failure Bool × τ} {P R : τ → Prop} {Q : Failure → τ → Prop}

/-- What each row that is drawn keeps, a row in the window keeps. -/
lemma seek_leaves
    (hnext : ∀ {t}, P t → Leaves (fun b t' => P t' ∧ (b = true → R t')) Q (next t))
    {drop : Nat} {w : Window} {t : τ} (ht : P t) :
    Leaves (fun b t' => P t'.2 ∧ (b = true → R t'.2)) (fun e t' => Q e t'.2)
      (seek next drop w t) := by
  induction drop generalizing w t with
  | zero =>
    have h := hnext ht
    rw [seek]
    split
    next t₁ ht₁ => exact h.of_eq_ok ht₁
    next r t₁ hr ht₁ =>
      rw [ht₁] at h
      exact Leaves.map (f := fun t => (w, t)) (h.imp (fun _ _ h => h) fun _ _ h => h)
  | succ drop ih =>
    have h := hnext ht
    rw [seek]
    split
    next t₁ ht₁ => exact ih (h.of_eq_ok ht₁).1
    next r t₁ hr ht₁ =>
      rw [ht₁] at h
      exact Leaves.map (f := fun t => (w, t)) (h.imp (fun _ _ h => h) fun _ _ h => h)

lemma advance_leaves
    (hnext : ∀ {t}, P t → Leaves (fun b t' => P t' ∧ (b = true → R t')) Q (next t))
    (w : Window) {t : τ} (ht : P t) :
    Leaves (fun b t' => P t'.2 ∧ (b = true → R t'.2)) (fun e t' => Q e t'.2)
      (w.advance next t) := by
  rw [advance]
  split
  · refine ⟨ht, ?_⟩
    rintro ⟨⟩
  · exact seek_leaves hnext ht

end Window

/-- A merge that opens is put together from the labels and the bound shape. -/
lemma Cursor.of_merge_eq_ok {σ : Type} [RowSource σ] {c : Cursor σ} {config : Config} {shape : Shape}
    {sources : List σ} (h : Cursor.merge config shape sources = .ok c) :
    ∃ x b, agreedLabels (numberShards 0 sources) = .ok x ∧ BoundShape.bind x shape = .ok b ∧
      c = assemble config shape (numberShards 0 sources) x b := by
  rw [merge] at h
  split at h
  next c₁ hplan =>
    cases h
    rw [plan] at hplan
    split at hplan
    · cases hplan
    next x hx =>
      split at hplan
      · cases hplan
      next b hb =>
        cases hplan
        exact ⟨x, b, hx, hb, rfl⟩
  · cases h

namespace Lifecycle

variable {σ ι : Type} [RowSource σ] {L : Lifecycle σ ι} {as : List ι}

/-- Every shard is closed, whether or not others fail. -/
lemma closeShards_eq_map (ss : List (Shard σ)) :
    (Cursor.closeShards ss).2 = ss.map fun s => s.close.2 := by
  induction ss with
  | nil => rfl
  | cons s ss ih =>
    rw [Cursor.closeShards, List.map_cons, ← ih]
    split
    next hclosed => simp only [Shard.close, if_pos hclosed]
    · rcases s.close with ⟨e | u, s'⟩ <;> rfl

lemma closeShards_leaves {ps : List (ι × Nat)} {ss : List (Shard σ)}
    (h : List.Forall₂ L.OpenShard ps ss) :
    List.Forall₂ L.ClosedShard ps (Cursor.closeShards ss).2 := by
  rw [closeShards_eq_map, List.forall₂_map_right_iff]
  exact h.imp fun _ _ hs => hs.close

variable (L) in
/-- A cursor in a state that calls of a client can lead to. -/
structure Sound (as : List ι) (c : Cursor σ) : Prop where
  shards : List.Forall₂ L.OpenShard as.zipIdx c.shards
  poised : c.phase = .beforeFirst ∨ c.phase = .onRow → L.Poised as.zipIdx c.merger c.shards
  onRow : c.phase = .onRow → L.OnCurrent as.zipIdx c.merger c.shards
  closed : c.phase = .closed → List.Forall₂ L.ClosedShard as.zipIdx c.shards

variable {c : Cursor σ}

/-- A call leaves a sound cursor, and a closed cursor stays closed. -/
structure Kept (L : Lifecycle σ ι) (as : List ι) (c c' : Cursor σ) : Prop where
  sound : L.Sound as c'
  closed : c.phase = .closed → c'.phase = .closed

lemma Sound.kept (h : L.Sound as c) : L.Kept as c c := ⟨h, id⟩

lemma Kept.trans {c₁ c₂ c₃ : Cursor σ} (h₁ : L.Kept as c₁ c₂) (h₂ : L.Kept as c₂ c₃) :
    L.Kept as c₁ c₃ := ⟨h₂.sound, fun h => h₂.closed (h₁.closed h)⟩

lemma openShards_of_closed {ps : List (ι × Nat)} {ss : List (Shard σ)}
    (h : List.Forall₂ L.ClosedShard ps ss) : List.Forall₂ L.OpenShard ps ss := by
  refine h.imp fun p s hs => ⟨hs.number_eq, fun _ => hs.source, fun hopen => ?_⟩
  rw [hs.closed] at hopen
  cases hopen

/-! ### Closing -/

lemma sound_shut (h : List.Forall₂ L.OpenShard as.zipIdx c.shards) :
    L.Sound as c.shut.2 ∧ c.shut.2.phase = .closed := by
  have hclosed := closeShards_leaves h
  have hphase : c.shut.2.phase = .closed := rfl
  refine ⟨⟨openShards_of_closed hclosed, ?_, ?_, fun _ => hclosed⟩, hphase⟩
  · simp [hphase]
  · simp [hphase]

lemma Sound.close (h : L.Sound as c) : L.Sound as c.close.2 ∧ c.close.2.phase = .closed := by
  have hshut := sound_shut h.shards
  rw [Cursor.close]
  split
  next c₁ hc₁ =>
    rw [hc₁] at hshut
    exact hshut
  next e c₁ hc₁ =>
    rw [hc₁] at hshut
    exact hshut

lemma Sound.closedShards_close (h : L.Sound as c) :
    List.Forall₂ L.ClosedShard as.zipIdx c.close.2.shards :=
  h.close.1.closed h.close.2

/-! ### Advancing -/

lemma Poised.drawInWindow (h : L.Poised as.zipIdx c.merger c.shards) :
    Leaves (fun b c' => L.Poised as.zipIdx c'.merger c'.shards ∧
        (b = true → L.OnCurrent as.zipIdx c'.merger c'.shards))
      (fun _ c' => List.Forall₂ L.OpenShard as.zipIdx c'.shards) c.drawInWindow := by
  rw [Cursor.drawInWindow]
  split
  · refine Leaves.map (f := fun t : Merger × List (Shard σ) =>
      { c with merger := t.1, shards := t.2 }) ?_
    exact h.advance
  next p hp =>
    refine Leaves.map (f := fun t : Window × Merger × List (Shard σ) =>
      { c with
        merger := t.2.1, shards := t.2.2, pagination := some { p with window := t.1 } }) ?_
    exact Window.advance_leaves (P := fun t : Merger × List (Shard σ) =>
      L.Poised as.zipIdx t.1 t.2) (fun ht => ht.advance) p.window h

lemma Sound.advance (h : L.Sound as c) :
    Leaves (fun _ c' => L.Kept as c c') (fun _ c' => L.Sound as c' ∧ c'.phase = .closed)
      c.advance := by
  rw [Cursor.advance]
  split
  · exact h.kept
  next hphase => exact ⟨h, hphase⟩
  all_goals
    next hphase =>
      have hdraw := (h.poised (by simp [hphase])).drawInWindow
      split
      next c₁ hc₁ =>
        obtain ⟨hpoised, hrow⟩ := hdraw.of_eq_ok hc₁
        refine ⟨⟨openShards hpoised.ready, fun _ => hpoised, fun _ => hrow rfl, ?_⟩, ?_⟩
        · simp
        · simp [hphase]
      next c₁ hc₁ =>
        obtain ⟨hpoised, -⟩ := hdraw.of_eq_ok hc₁
        refine ⟨⟨openShards hpoised.ready, ?_, ?_, ?_⟩, ?_⟩
        · simp
        · simp
        · simp
        · simp [hphase]
      next e c₁ hc₁ => exact sound_shut (hdraw.of_eq_error hc₁)

/-! ### Reading -/

lemma Sound.readCurrent (h : L.Sound as c) (hphase : c.phase = .onRow) (i : Nat) (t : SqlType) :
    Leaves (fun _ c' => L.Sound as c' ∧ c'.phase = .onRow)
      (fun e c' => List.Forall₂ L.OpenShard as.zipIdx c'.shards ∧
        (e.isTransient = false → L.Sound as c')) (c.readCurrent i t) := by
  rw [Cursor.readCurrent]
  split
  next k hk =>
    split
    next s hs =>
      obtain ⟨p, s', hp, hs', hrow⟩ := h.onRow hphase k hk
      obtain rfl : s = s' := Option.some.inj (hs.symm.trans hs')
      have hpoised := h.poised (Or.inr hphase)
      -- a shard that is still on its row takes the place of the one that was read
      have hset {s₁ : Shard σ} (hs₁ : L.OnRowShard p s₁) :
          L.Sound as { c with shards := c.shards.set k s₁ } := by
        refine ⟨openShards (hpoised.set hp hs₁).ready, fun _ => hpoised.set hp hs₁,
          fun _ => (h.onRow hphase).set hp hs₁, fun hclosed => ?_⟩
        rw [hphase] at hclosed
        cases hclosed
      refine Leaves.map (f := fun s₁ => { c with shards := c.shards.set k s₁ }) ?_
      refine (hrow.value i t).imp ?_ ?_
      · intro _ s₁ hs₁
        exact ⟨hset hs₁, hphase⟩
      · intro e s₁ hs₁
        exact ⟨forall₂_set h.shards hp hs₁.1, fun he => hset (hs₁.2 he)⟩
    · exact ⟨h.shards, fun _ => h⟩
  next r hr => exact leaves_of (fun _ _ => ⟨h, hphase⟩) fun _ _ => ⟨h.shards, fun _ => h⟩
  · exact ⟨h.shards, fun _ => h⟩

lemma Sound.readColumn (h : L.Sound as c) (hphase : c.phase = .onRow) (i : Nat) (t : SqlType) :
    Leaves (fun _ c' => L.Sound as c' ∧ c'.phase = .onRow)
      (fun e c' => List.Forall₂ L.OpenShard as.zipIdx c'.shards ∧
        (e.isTransient = false → L.Sound as c')) (c.readColumn i t) := by
  rw [Cursor.readColumn]
  split
  · split
    · exact leaves_of (fun _ _ => ⟨h, hphase⟩) fun _ _ => ⟨h.shards, fun _ => h⟩
    · exact h.readCurrent hphase i t
  · exact h.readCurrent hphase i t

lemma Sound.value (h : L.Sound as c) (i : Nat) (t : SqlType) :
    Leaves (fun _ c' => L.Kept as c c')
      (fun e c' => L.Kept as c c' ∧ (e.isTransient = true → c'.phase = .closed)) (c.value i t) := by
  rw [Cursor.value]
  split
  · refine ⟨h.kept, ?_⟩
    rintro ⟨⟩
  · refine ⟨h.kept, ?_⟩
    rintro ⟨⟩
  · refine ⟨h.kept, ?_⟩
    rintro ⟨⟩
  next hphase =>
    have hnot {c' : Cursor σ} : c.phase = .closed → c'.phase = .closed := by
      rw [hphase]
      rintro ⟨⟩
    split
    · refine ⟨h.kept, ?_⟩
      rintro ⟨⟩
    · have hread := h.readColumn hphase i t
      split
      next v c₁ hc₁ =>
        obtain ⟨hsound, -⟩ := hread.of_eq_ok hc₁
        exact ⟨⟨hsound.shards, hsound.poised, hsound.onRow, hsound.closed⟩, hnot⟩
      next e c₁ hc₁ =>
        obtain ⟨hopen, hsound⟩ := hread.of_eq_error hc₁
        split
        · exact ⟨⟨(sound_shut hopen).1, hnot⟩, fun _ => rfl⟩
        next he =>
          rw [Bool.not_eq_true] at he
          exact ⟨⟨hsound he, hnot⟩, fun he' => absurd he' (by simp [he])⟩

lemma Sound.readFrom (h : L.Sound as c) (first n : Nat) :
    Leaves (fun _ c' => L.Kept as c c')
      (fun e c' => L.Kept as c c' ∧ (e.isTransient = true → c'.phase = .closed))
      (c.readFrom first n) := by
  induction n generalizing c first with
  | zero => exact h.kept
  | succ n ih =>
    have hval := h.value first .any
    rw [Cursor.readFrom]
    split
    next e c₁ hc₁ => exact hval.of_eq_error hc₁
    next v c₁ hc₁ =>
      have hkept := hval.of_eq_ok hc₁
      have hrest := ih hkept.sound (first + 1)
      split
      next e c₂ hc₂ =>
        obtain ⟨hkept', hclosed⟩ := hrest.of_eq_error hc₂
        exact ⟨hkept.trans hkept', hclosed⟩
      next vs c₂ hc₂ => exact hkept.trans (hrest.of_eq_ok hc₂)

lemma Sound.valueByLabel (h : L.Sound as c) (label : String) (t : SqlType) :
    Leaves (fun _ c' => L.Kept as c c')
      (fun e c' => L.Kept as c c' ∧ (e.isTransient = true → c'.phase = .closed))
      (c.valueByLabel label t) := by
  rw [Cursor.valueByLabel]
  split
  · exact h.value _ t
  · refine ⟨h.kept, ?_⟩
    rintro ⟨⟩

/-! ### Sessions -/

lemma Sound.answer (h : L.Sound as c) {call : ClientCall} (hcall : call ≠ .drop) :
    L.Kept as c (c.answer call).2 ∧
      ((c.answer call).1.isFinal = true → (c.answer call).2.phase = .closed) := by
  cases call with
  | advance =>
    have hadv := h.advance
    rcases hr : c.advance with ⟨e | b, c'⟩ <;> rw [hr] at hadv <;> simp only [Cursor.answer, hr]
    · exact ⟨⟨hadv.1, fun _ => hadv.2⟩, fun _ => hadv.2⟩
    · refine ⟨hadv, ?_⟩
      rintro ⟨⟩
  | value i t =>
    have hval := h.value i t
    rcases hr : c.value i t with ⟨e | v, c'⟩ <;> rw [hr] at hval <;> simp only [Cursor.answer, hr]
    · exact hval
    · refine ⟨hval, ?_⟩
      rintro ⟨⟩
  | valueByLabel label t =>
    have hval := h.valueByLabel label t
    rcases hr : c.valueByLabel label t with ⟨e | v, c'⟩ <;> rw [hr] at hval <;>
      simp only [Cursor.answer, hr]
    · exact hval
    · refine ⟨hval, ?_⟩
      rintro ⟨⟩
  | currentRow =>
    have hread := h.readFrom 1 c.columnCount
    rcases hr : c.readFrom 1 c.columnCount with ⟨e | v, c'⟩ <;> rw [hr] at hread <;>
      simp only [Cursor.answer, Cursor.currentRow, hr]
    · exact hread
    · refine ⟨hread, ?_⟩
      rintro ⟨⟩
  | wasNull =>
    refine ⟨h.kept, ?_⟩
    rintro ⟨⟩
  | close => exact ⟨⟨h.close.1, fun _ => h.close.2⟩, fun _ => h.close.2⟩
  | drop => exact absurd rfl hcall

/-- Any session leaves shards that may be closed; a final answer leaves them closed. -/
theorem Sound.run (h : L.Sound as c) (calls : List ClientCall) :
    List.Forall₂ L.OpenShard as.zipIdx (c.run calls).2.shards ∧
      (c.phase = .closed ∨ (∃ a ∈ (c.run calls).1, a.isFinal = true) →
        List.Forall₂ L.ClosedShard as.zipIdx (c.run calls).2.shards) := by
  induction calls generalizing c with
  | nil =>
    refine ⟨h.shards, ?_⟩
    rintro (hclosed | ⟨a, ha, -⟩)
    · exact h.closed hclosed
    · cases ha
  | cons call calls ih =>
    by_cases hdrop : call = .drop
    · subst hdrop
      have hclosed := closeShards_leaves h.shards
      exact ⟨openShards_of_closed hclosed, fun _ => hclosed⟩
    · simp only [Cursor.run, if_neg hdrop]
      obtain ⟨hkept, hfinal⟩ := h.answer hdrop
      obtain ⟨hopen, hclosed⟩ := ih hkept.sound
      refine ⟨hopen, ?_⟩
      rintro (hphase | ⟨a, ha, hfinal'⟩)
      · exact hclosed (Or.inl (hkept.closed hphase))
      · rcases List.mem_cons.mp ha with rfl | ha
        · exact hclosed (Or.inl (hfinal hfinal'))
        · exact hclosed (Or.inr ⟨a, ha, hfinal'⟩)

/-- A cursor that was not dropped can be used further. -/
lemma Sound.run_sound (h : L.Sound as c) {calls : List ClientCall} (hdrop : .drop ∉ calls) :
    L.Sound as (c.run calls).2 := by
  induction calls generalizing c with
  | nil => exact h
  | cons call calls ih =>
    rw [List.mem_cons, not_or] at hdrop
    simp only [Cursor.run, if_neg (Ne.symm hdrop.1)]
    exact ih (h.answer (Ne.symm hdrop.1)).1.sound hdrop.2

/-! ### Cursors as sources -/

/-- A cursor stands for what its shards stand for, one after the other. It may be called at any
time. -/
def cursor (L : Lifecycle σ (List ι)) : Lifecycle (Cursor σ) (List ι) where
  Open names c := ∃ parts, parts.flatten = names ∧ L.Sound parts c
  Ready names c := ∃ parts, parts.flatten = names ∧ L.Sound parts c
  OnRow names c := ∃ parts, parts.flatten = names ∧ L.Sound parts c
  Closed names c :=
    ∃ parts : List (List ι), parts.flatten = names ∧
      List.Forall₂ L.ClosedShard parts.zipIdx c.shards
  open_of_ready h := h
  ready_of_onRow h := h
  advance {names c} h := by
    obtain ⟨parts, hparts, hc⟩ := h
    refine hc.advance.imp ?_ ?_
    · intro b c' hc'
      exact ⟨⟨parts, hparts, hc'.sound⟩, fun _ => ⟨parts, hparts, hc'.sound⟩⟩
    · intro e c' hc'
      exact ⟨parts, hparts, hc'.1⟩
  value {names c} i t h := by
    obtain ⟨parts, hparts, hc⟩ := h
    refine (hc.value i t).imp ?_ ?_
    · intro v c' hc'
      exact ⟨parts, hparts, hc'.sound⟩
    · intro e c' hc'
      exact ⟨⟨parts, hparts, hc'.1.sound⟩, fun _ => ⟨parts, hparts, hc'.1.sound⟩⟩
  close {names c} h := by
    obtain ⟨parts, hparts, hc⟩ := h
    exact ⟨parts, hparts, hc.closedShards_close⟩

/-! ### Opening -/

variable {sources : List σ}

lemma readyShards_numberShards (h : List.Forall₂ L.Ready as sources) (k : Nat) :
    List.Forall₂ L.ReadyShard (as.zipIdx k) (Cursor.numberShards k sources) := by
  induction h generalizing k with
  | nil => exact .nil
  | @cons a s as sources hs _ ih =>
    rw [List.zipIdx_cons, Cursor.numberShards]
    refine .cons ⟨⟨rfl, ?_, fun _ => L.open_of_ready hs⟩, fun _ _ => hs⟩ (ih (k + 1))
    rintro ⟨⟩

lemma sound_of_merge {config : Config} {shape : Shape} (h : List.Forall₂ L.Ready as sources)
    (hmerge : Cursor.merge config shape sources = .ok c) : L.Sound as c := by
  have hready := readyShards_numberShards h 0
  obtain ⟨x, b, -, -, rfl⟩ := Cursor.of_merge_eq_ok hmerge
  refine ⟨openShards hready, fun _ => poised_start hready config b _, ?_, ?_⟩
  · rintro ⟨⟩
  · rintro ⟨⟩

lemma closeShards_numberShards (sources : List σ) (k : Nat) :
    (Cursor.closeShards (Cursor.numberShards k sources)).2.map (·.source) =
      sources.map fun s => (RowSource.close s).2 := by
  rw [closeShards_eq_map]
  induction sources generalizing k with
  | nil => rfl
  | cons s sources ih =>
    rw [Cursor.numberShards, List.map_cons, List.map_cons, List.map_cons, ih]
    rfl

/-- With a failure to open come the sources, each of them closed by one call. -/
lemma given_of_merge {config : Config} {shape : Shape} {e : Failure} {given : List σ}
    (hmerge : Cursor.merge config shape sources = .error (e, given)) :
    given = sources.map fun s => (RowSource.close s).2 := by
  rw [Cursor.merge] at hmerge
  split at hmerge
  · cases hmerge
  · cases hmerge
    exact closeShards_numberShards sources 0

end Lifecycle

end Confluence
