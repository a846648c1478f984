import Confluence.Nested
import Confluence.Proofs.Cursor.Rows

/-!
# Promises of nested merges

Over leaves in memory whose scripts do not blame this library, no session breaks a promise between
parts of it, and no row is read before the cursor is on it. Both go through every level of nested
merges: what a cursor needs of its sources, it offers as a source itself.
-/

namespace Confluence

/-- No failure in a script is a bug. -/
structure FailureScript.Blameless (f : FailureScript) : Prop where
  label (column : Nat) : ∀ e ∈ f.label column, e.kind ≠ .bug
  advance (rows : Nat) : ∀ e ∈ f.advance rows, e.kind ≠ .bug
  value (rows column : Nat) : ∀ e ∈ f.value rows column, e.kind ≠ .bug
  close : ∀ e ∈ f.close, e.kind ≠ .bug

/-! ### Leaves -/

namespace MemorySource

variable {s : MemorySource}

lemma exists_current_of_advance (h : s.advance.1 = .ok true) :
    ∃ r, s.advance.2.current = .ok r := by
  rw [advance] at h ⊢
  split at h
  · cases h
  next hclosed =>
    split at h
    next hlt =>
      rw [if_neg hclosed, if_pos hlt]
      exact ⟨s.rows[s.position], by simp [current, hclosed, hlt]⟩
    · cases h

lemma current_value (i : Nat) (t : SqlType) : (s.value i t).2.current = s.current := by
  rw [value]
  split <;> rfl

lemma isInternalBug_of_advance {e : Failure} (h : s.advance.1 = .error e) :
    e.isInternalBug = false := by
  rw [advance] at h
  split at h
  · cases h
    rfl
  · split at h <;> cases h

lemma isInternalBug_of_current {e : Failure} (h : s.current = .error e) :
    e.isInternalBug = false := by
  rw [current] at h
  split at h
  · cases h
    rfl
  · split at h
    · cases h
      rfl
    · split at h
      · cases h
      · cases h
        rfl

/-- A value cannot be read for want of a row, or for a reason that is no bug. -/
lemma of_value_eq_error {Q : Failure → Prop} (hown : ∀ {e : Failure}, e.kind ≠ .bug → Q e)
    (hcurrent : ∀ e, s.current = .error e → Q e) {i : Nat} {t : SqlType} {e : Failure}
    (h : (s.value i t).1 = .error e) : Q e := by
  rw [value] at h
  split at h
  · cases h
  next e₁ hread =>
    cases h
    rw [read] at hread
    split at hread
    next e₂ he₂ =>
      cases hread
      exact hcurrent _ he₂
    · split at hread
      · cases hread
        exact hown FailureKind.noConfusion
      · split at hread
        · exact hown (Cell.kind_of_coerce hread)
        · cases hread
          exact hown FailureKind.noConfusion

end MemorySource

namespace ScriptedSource

variable {s : ScriptedSource}

lemma blameless_advance (hs : s.script.Blameless) : s.advance.2.script.Blameless := by
  show s.advance.2.origin.script.Blameless
  rw [s.origin_advance]
  exact hs

lemma blameless_value (hs : s.script.Blameless) (i : Nat) (t : SqlType) :
    (s.value i t).2.script.Blameless := by
  show (s.value i t).2.origin.script.Blameless
  rw [s.origin_value]
  exact hs

lemma blameless_close (hs : s.script.Blameless) : s.close.2.script.Blameless := by
  show s.close.2.origin.script.Blameless
  rw [s.origin_close]
  exact hs

lemma exists_current_of_advance (h : s.advance.1 = .ok true) :
    ∃ r, s.advance.2.memory.current = .ok r := by
  rw [advance] at h ⊢
  split at h
  · cases h
  · split at h
    next m hm =>
      have hcurrent := MemorySource.exists_current_of_advance (congrArg Prod.fst hm)
      simpa only [hm] using hcurrent
    next r m hr hm => exact absurd h hr

lemma current_value (i : Nat) (t : SqlType) :
    (s.value i t).2.memory.current = s.memory.current := by
  rw [value]
  split
  · rfl
  · exact MemorySource.current_value i t

lemma isPremature_of_value (hs : s.script.Blameless) {r : Row} (hr : s.memory.current = .ok r)
    {i : Nat} {t : SqlType} {e : Failure} (h : (s.value i t).1 = .error e) :
    e.isPremature = false := by
  rw [value] at h
  split at h
  next e₁ hfailure =>
    cases h
    exact Failure.isPremature_of_kind (hs.value _ _ _ hfailure)
  · refine MemorySource.of_value_eq_error (Q := fun e => e.isPremature = false)
      Failure.isPremature_of_kind ?_ h
    rw [hr]
    rintro e ⟨⟩

/-- A leaf is on a row while there is one to read. -/
def rowLifecycle : Lifecycle ScriptedSource Unit where
  Open _ s := s.script.Blameless
  Ready _ s := s.script.Blameless
  OnRow _ s := s.script.Blameless ∧ ∃ r, s.memory.current = .ok r
  Closed _ _ := True
  open_of_ready h := h
  ready_of_onRow h := h.1
  advance {_ s} h := by
    have hscript := blameless_advance h
    apply leaves_of
    · intro b hb
      refine ⟨hscript, ?_⟩
      rintro rfl
      exact ⟨hscript, exists_current_of_advance hb⟩
    · intro _ _
      exact hscript
  value {_ s} i t h := by
    obtain ⟨hs, r, hr⟩ := h
    have hscript := blameless_value hs i t
    have hcurrent : (s.value i t).2.memory.current = .ok r := (current_value i t).trans hr
    apply leaves_of
    · intro _ _
      exact ⟨hscript, r, hcurrent⟩
    · intro _ _
      exact ⟨hscript, fun _ => ⟨hscript, r, hcurrent⟩⟩
  close _ := trivial

lemma readable_rowLifecycle : rowLifecycle.Readable := by
  intro _ s i t e h he
  obtain ⟨hs, r, hr⟩ := h
  exact isPremature_of_value hs hr he

lemma isInternalBug_of_columnLabel (hs : s.script.Blameless) {i : Nat} {e : Failure}
    (h : s.columnLabel i = .error e) : e.isInternalBug = false := by
  have hmemory {e : Failure} (h : s.memory.columnLabel i = .error e) : e.isInternalBug = false := by
    unfold MemorySource.columnLabel at h
    split at h
    · cases h
      rfl
    · split at h
      · cases h
      · cases h
        rfl
  rw [columnLabel] at h
  split at h
  next e₁ hlabel =>
    cases h
    exact Failure.isInternalBug_of_kind (hs.label _ _ hlabel)
  · exact hmemory h

lemma isInternalBug_of_advance (hs : s.script.Blameless) {e : Failure}
    (h : s.advance.1 = .error e) : e.isInternalBug = false := by
  rw [advance] at h
  split at h
  next e₁ hfailure =>
    cases h
    exact Failure.isInternalBug_of_kind (hs.advance _ _ hfailure)
  · split at h
    · cases h
    next r m hr hm =>
      have hmemory := congrArg Prod.fst hm
      exact MemorySource.isInternalBug_of_advance (hmemory.trans h)

lemma isInternalBug_of_value (hs : s.script.Blameless) {i : Nat} {t : SqlType} {e : Failure}
    (h : (s.value i t).1 = .error e) : e.isInternalBug = false := by
  rw [value] at h
  split at h
  next e₁ hfailure =>
    cases h
    exact Failure.isInternalBug_of_kind (hs.value _ _ _ hfailure)
  · exact MemorySource.of_value_eq_error (Q := fun e => e.isInternalBug = false)
      Failure.isInternalBug_of_kind (fun _ => MemorySource.isInternalBug_of_current) h

lemma isInternalBug_of_close (hs : s.script.Blameless) {e : Failure} (h : s.close.1 = .error e) :
    e.isInternalBug = false := by
  rw [close] at h
  split at h
  next e₁ hclose =>
    cases h
    exact Failure.isInternalBug_of_kind (hs.close _ hclose)
  · cases h

lemma promising_blameless : Promising fun s : ScriptedSource => s.script.Blameless where
  columnLabel hs h := isInternalBug_of_columnLabel hs h
  advance hs := leaves_of (fun _ _ => blameless_advance hs)
    fun _ h => ⟨isInternalBug_of_advance hs h, blameless_advance hs⟩
  value i t hs := leaves_of (fun _ _ => blameless_value hs i t)
    fun _ h => ⟨isInternalBug_of_value hs h, blameless_value hs i t⟩
  close hs := leaves_of (fun _ _ => blameless_close hs)
    fun _ h => ⟨isInternalBug_of_close hs h, blameless_close hs⟩

end ScriptedSource

/-! ### Nested sources -/

namespace Nested

def rowLifecycle : (n : Nat) → Lifecycle (Nested ScriptedSource n) Unit
  | 0 => ScriptedSource.rowLifecycle
  | n + 1 => ScriptedSource.rowLifecycle.sum (rowLifecycle n).rowCursor

lemma readable_rowLifecycle (n : Nat) : (rowLifecycle n).Readable := by
  induction n with
  | zero => exact ScriptedSource.readable_rowLifecycle
  | succ n ih => exact ScriptedSource.readable_rowLifecycle.sum ih.rowCursor

/-- Leaves with a blameless script, and the cursors that break no promise over such sources. -/
def Dependable : (n : Nat) → Nested ScriptedSource n → Prop
  | 0 => fun l => l.script.Blameless
  | n + 1 => Sum.elim (fun l => l.script.Blameless)
      (Cursor.Trusty (rowLifecycle n) (Dependable n))

lemma promising_dependable (n : Nat) : Promising (Dependable n) := by
  induction n with
  | zero => exact ScriptedSource.promising_blameless
  | succ n ih => exact ScriptedSource.promising_blameless.sum (Cursor.promising_trusty ih)

lemma ready_of_dependable {n : Nat} {s : Nested ScriptedSource n} (h : s.Dependable n) :
    (rowLifecycle n).Ready () s := by
  cases n with
  | zero => exact h
  | succ n =>
    cases s with
    | inl l => exact h
    | inr c => exact h.sound

lemma forall₂_ready_of_dependable {n : Nat} {sources : List (Nested ScriptedSource n)}
    (h : ∀ s ∈ sources, s.Dependable n) :
    List.Forall₂ (rowLifecycle n).Ready (sources.map fun _ => ()) sources := by
  rw [List.forall₂_map_left_iff, List.forall₂_same]
  exact fun s hs => ready_of_dependable (h s hs)

/-- What a merge may be built from: leaves with a blameless script, and merged cursors over such
sources, in whatever state a client left them that did not drop them. -/
def Blameless : (n : Nat) → Nested ScriptedSource n → Prop
  | 0, l => l.script.Blameless
  | _ + 1, .inl l => l.script.Blameless
  | n + 1, .inr c => ∃ config shape sources opened calls, (∀ s ∈ sources, Blameless n s) ∧
      Cursor.merge config shape sources = .ok opened ∧ .drop ∉ calls ∧ (opened.run calls).2 = c

lemma dependable_of_blameless {n : Nat} {s : Nested ScriptedSource n} (h : s.Blameless n) :
    s.Dependable n := by
  induction n with
  | zero => exact h
  | succ n ih =>
    cases s with
    | inl l => exact h
    | inr c =>
      obtain ⟨config, shape, sources, opened, calls, hsources, hmerge, hdrop, rfl⟩ := h
      have hdependable : ∀ s ∈ sources, s.Dependable n := fun s hs => ih (hsources s hs)
      exact (Cursor.trusty_of_merge (forall₂_ready_of_dependable hdependable) hdependable
        hmerge).run (promising_dependable n) hdrop

end Nested

namespace Cursor

/-- Over blameless sources of any depth, neither a failure to open nor any answer of a session is a
broken promise. -/
theorem keepsPromises_of_blameless {n : Nat} {config : Config} {shape : Shape}
    {sources : List (Nested ScriptedSource n)} (h : ∀ s ∈ sources, s.Blameless n) :
    (∀ e given, merge config shape sources = .error (e, given) → e.isInternalBug = false) ∧
      ∀ c, merge config shape sources = .ok c → ∀ calls,
        (∀ a ∈ (c.run calls).1, ∀ e ∈ a.failure?, e.isInternalBug = false) ∧
          (.drop ∉ calls → KeepsPromises (c.run calls).1 (c.run calls).2) := by
  have hdependable : ∀ s ∈ sources, s.Dependable n := fun s hs =>
    Nested.dependable_of_blameless (h s hs)
  have hready := Nested.forall₂_ready_of_dependable hdependable
  have hpromising := Nested.promising_dependable n
  constructor
  · intro e given hmerge
    exact isInternalBug_of_merge hpromising hdependable hmerge
  · intro c hmerge calls
    constructor
    · exact (trusty_of_merge hready hdependable hmerge).run_answers hpromising calls
    · intro hdrop
      exact keepsPromises_of_merge (Nested.readable_rowLifecycle n) hready hmerge hdrop

/-- A leaf whose row has no cell in the last column. -/
def shortLeaf : ScriptedSource where
  memory := { labels := ["k", "v"], rows := [[.text "a"]] }
  script := { close := some (.io "gone") }

/-- A cell that is missing two levels down is missed for what it is. -/
theorem keepsPromises_of_short_leaf :
    ∃ (inner : Cursor (Nested ScriptedSource 0)) (c : Cursor (Nested ScriptedSource 1)),
      merge {} {} [shortLeaf] = .ok inner ∧ merge {} {} [.inr inner, .inl shortLeaf] = .ok c ∧
        (c.run [.advance]).2.RowStands ∧
        ((c.run [.advance]).2.value 2 .any).1 = .error (.columnOutOfBounds 2) := by
  obtain ⟨inner, hinner⟩ : ∃ c : Cursor (Nested ScriptedSource 0),
      merge {} {} [shortLeaf] = .ok c := ⟨_, rfl⟩
  have hshort : shortLeaf.script.Blameless := by
    constructor
    case close =>
      rintro e ⟨⟩
      exact FailureKind.noConfusion
    all_goals
      intros
      contradiction
  let sources : List (Nested ScriptedSource 1) := [.inr inner, .inl shortLeaf]
  have hsources : ∀ s ∈ sources, s.Blameless 1 := by
    have hleaf : ∀ s ∈ [shortLeaf], Nested.Blameless 0 s := List.forall_mem_singleton.mpr hshort
    refine List.forall_mem_cons.mpr ⟨?_, List.forall_mem_singleton.mpr hshort⟩
    exact ⟨{}, {}, [shortLeaf], inner, [], hleaf, hinner, List.not_mem_nil, rfl⟩
  obtain ⟨c, hc⟩ : ∃ c, merge {} {} sources = .ok c := by
    cases hinner
    exact ⟨_, rfl⟩
  obtain ⟨-, hkeeps⟩ := (keepsPromises_of_blameless hsources).2 c hc [.advance]
  refine ⟨inner, c, hinner, hc, (hkeeps (by decide)).rowStands [] [] ?_ (List.forall_mem_nil _), ?_⟩
  all_goals
    cases hinner
    cases hc
    rfl

end Cursor

end Confluence
