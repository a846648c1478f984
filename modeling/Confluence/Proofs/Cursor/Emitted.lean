import Confluence.Proofs.Cursor.Phases
import Confluence.Proofs.Cursor.Reading
import Confluence.Proofs.Merge.Progress

/-!
# The rows that a session came to

A client sees the current row of a cursor, and not which shard it comes from. Over leaves a history
of a session is kept beside it: for every advance that came to a row, the number of the shard that
the merge points to and the row that its leaf sits on. What each step of a merge says of this
history holds after any session.
-/

namespace Confluence

namespace Cursor

/-- The row that a call came to, if it did. -/
def emittedBy (c : Cursor ScriptedSource) (call : ClientCall) : List (Row × Nat) :=
  if (c.answer call).1.cameToRow then
    ((c.answer call).2.merger.numberedRow? (c.answer call).2.shards).toList
  else []

/-- The rows that a cursor came to in a session, each with the number of its shard. -/
def emitted (c : Cursor ScriptedSource) : List ClientCall → List (Row × Nat)
  | [] => []
  | call :: calls =>
    if call = .drop then [] else c.emittedBy call ++ (c.answer call).2.emitted calls

end Cursor

namespace Cursor

variable {I : List (Row × Nat) → Merger → List (Shard ScriptedSource) → Prop}
  {E : List (Row × Nat) → Merger → Prop} {n : Nat} {log : List (Row × Nat)}
  {c : Cursor ScriptedSource}

lemma rests_refl (c : Cursor ScriptedSource) : c.Like ScriptedSource.Rests c where
  shards := List.forall₂_same.mpr fun s _ => ⟨rfl, rfl, rfl, .refl s.source⟩
  labels_eq := rfl
  merger := rfl
  pagination_eq := rfl
  rowNumberColumn_eq := rfl
  phase_eq := rfl

/-- A cursor without pagination whose merge came to the rows in `log`. -/
structure Logs (I : List (Row × Nat) → Merger → List (Shard ScriptedSource) → Prop)
    (E : List (Row × Nat) → Merger → Prop) (n : Nat) (log : List (Row × Nat))
    (c : Cursor ScriptedSource) : Prop where
  tidy : c.Tidy n
  wellBound : c.phase ≠ .closed → c.merger.WellBound
  rows : c.phase ≠ .closed → c.pagination = none ∧ I log c.merger c.shards
  atEnd : c.phase = .exhausted → E log c.merger

/-- Only an advance comes to a row. -/
lemma emittedBy_of_ne (c : Cursor ScriptedSource) {call : ClientCall} (h : call ≠ .advance) :
    c.emittedBy call = [] := by
  cases call with
  | advance => exact absurd rfl h
  | _ => rfl

lemma emittedBy_advance {b : Bool} {c' : Cursor ScriptedSource} (h : c.advance = (.ok b, c')) :
    c.emittedBy .advance = if b then (c'.merger.numberedRow? c'.shards).toList else [] := by
  rw [emittedBy, answer, h]
  cases b <;> rfl

/-- An advance of a cursor without pagination that did not fail: it was at the end already, or it
moved its merge. -/
lemma of_advance_eq_ok {σ : Type} [RowSource σ] {c c' : Cursor σ} {b : Bool}
    (hpagination : c.phase ≠ .closed → c.pagination = none) (h : c.advance = (.ok b, c')) :
    c.phase = .exhausted ∧ b = false ∧ c' = c ∨
      c.phase ≠ .closed ∧ c.merger.advance c.shards = (.ok b, c'.merger, c'.shards) ∧
        c'.pagination = none ∧ c'.labels = c.labels ∧ c'.rowNumberColumn = c.rowNumberColumn ∧
        c'.phase = if b then .onRow else .exhausted := by
  have hdraw (hnone : c.pagination = none) : c.drawInWindow = ((c.merger.advance c.shards).1,
      { c with
        merger := (c.merger.advance c.shards).2.1,
        shards := (c.merger.advance c.shards).2.2 }) := by
    rw [drawInWindow, hnone]
    rfl
  rw [Cursor.advance] at h
  split at h
  next hphase =>
    cases h
    exact Or.inl ⟨hphase, rfl, rfl⟩
  · cases h
  all_goals
    next hphase =>
      have hopen : c.phase ≠ .closed := by simp [hphase]
      rw [hdraw (hpagination hopen)] at h
      rcases hm : c.merger.advance c.shards with ⟨e | _ | _, m, ss⟩ <;> rw [hm] at h <;> cases h
      · exact Or.inr ⟨hopen, rfl, hpagination hopen, rfl, rfl, rfl⟩
      · exact Or.inr ⟨hopen, rfl, hpagination hopen, rfl, rfl, rfl⟩

lemma Logs.advance (hI : Merger.Paces I E) (h : c.Logs I E n log) :
    c.advance.2.Logs I E n (log ++ c.emittedBy .advance) := by
  have hstep := h.tidy.advance h.wellBound
  rcases hadv : c.advance with ⟨e | b, c'⟩ <;> rw [hadv] at hstep
  · have hclosed := hstep.phase_eq.trans (ClientAnswer.phase_of_isFinal rfl c.phase)
    exact ⟨hstep.tidy, hstep.wellBound, fun hopen => absurd hclosed hopen, fun hend =>
      Phase.noConfusion (hclosed.symm.trans hend)⟩
  · rw [emittedBy_advance hadv]
    rcases of_advance_eq_ok (fun hopen => (h.rows hopen).1) hadv with
      ⟨-, rfl, rfl⟩ | ⟨hopen, hdraw, hpagination, -, -, hphase⟩
    · rw [if_neg Bool.false_ne_true, List.append_nil]
      exact ⟨hstep.tidy, hstep.wellBound, h.rows, h.atEnd⟩
    · obtain ⟨hrows, hend⟩ := (hI.advance (h.rows hopen).2).of_eq_ok hdraw
      refine ⟨hstep.tidy, hstep.wellBound, fun _ => ⟨hpagination, hrows⟩, fun hexhausted => ?_⟩
      cases b with
      | true => cases hphase.symm.trans hexhausted
      | false =>
        rw [if_neg Bool.false_ne_true, List.append_nil]
        exact hend rfl

lemma Logs.answer (hI : Merger.Paces I E) (h : c.Logs I E n log) {call : ClientCall}
    (hdrop : call ≠ .drop) : (c.answer call).2.Logs I E n (log ++ c.emittedBy call) := by
  by_cases hadvance : call = .advance
  · subst hadvance
    exact h.advance hI
  · have hstep := h.tidy.answer h.wellBound hdrop
    rw [emittedBy_of_ne c hadvance, List.append_nil]
    cases hfinal : (c.answer call).1.isFinal with
    | true =>
      have hclosed := hstep.phase_eq.trans (ClientAnswer.phase_of_isFinal hfinal c.phase)
      exact ⟨hstep.tidy, hstep.wellBound, fun hopen => absurd hclosed hopen, fun hend =>
        Phase.noConfusion (hclosed.symm.trans hend)⟩
    | false =>
      have hlike := still_answer ScriptedSource.still_rests c.rests_refl hadvance hfinal
      refine ⟨hstep.tidy, hstep.wellBound, ?_, ?_⟩
      · rw [← hlike.phase_eq, ← hlike.pagination_eq, ← hlike.merger]
        exact fun hopen => (h.rows hopen).imp_right fun hrows => hI.rests hrows hlike.shards
      · rw [← hlike.phase_eq, ← hlike.merger]
        exact h.atEnd

lemma emitted_append_advance {calls : List ClientCall} (hdrop : .drop ∉ calls) :
    c.emitted (calls ++ [.advance]) = c.emitted calls ++ (c.run calls).2.emittedBy .advance := by
  induction calls generalizing c with
  | nil => exact List.append_nil (c.emittedBy .advance)
  | cons call calls ih =>
    rw [List.mem_cons, not_or] at hdrop
    rw [List.cons_append, emitted, if_neg (Ne.symm hdrop.1), ih hdrop.2, emitted,
      if_neg (Ne.symm hdrop.1), List.append_assoc, run_cons (Ne.symm hdrop.1)]

/-- What each step of a merge keeps, a session keeps of all rows that it came to. -/
theorem Logs.run (hI : Merger.Paces I E) (h : c.Logs I E n log) {calls : List ClientCall}
    (hdrop : .drop ∉ calls) : (c.run calls).2.Logs I E n (log ++ c.emitted calls) := by
  induction calls generalizing c log with
  | nil =>
    rw [emitted, List.append_nil]
    exact h
  | cons call calls ih =>
    rw [List.mem_cons, not_or] at hdrop
    rw [run_cons (Ne.symm hdrop.1), emitted, if_neg (Ne.symm hdrop.1), ← List.append_assoc]
    exact ih (h.answer hI (Ne.symm hdrop.1)) hdrop.2

end Cursor

end Confluence
