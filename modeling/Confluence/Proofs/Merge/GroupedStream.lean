import Confluence.Proofs.Group.Merged
import Confluence.Proofs.Merge.Runs

/-!
# The grouped stream finishes one run after the other

The grouped stream cuts the rows of its ordered merge into runs: a row and all rows behind it up to
the first of another group. Each run is finished before the next one goes out, so a run is never
published before its end was seen.
-/

namespace Confluence

variable {σ : Type} [RowSource σ]

/-- The runs of a list of rows, each with its first row. -/
def Grouping.runs (g : Grouping) : List Row → List (Row × List Row)
  | [] => []
  | f :: rows =>
    (f, f :: rows.takeWhile (g.same · f)) :: g.runs (rows.dropWhile (g.same · f))
termination_by rows => rows.length
decreasing_by exact Nat.lt_succ_of_le (List.dropWhile_sublist _).length_le

namespace GroupedStream

variable {n : Nat} {g : Grouping} {m : OrderedMerge} {ss : List (Shard σ)} {rows : List Row}
  {e : Option Failure} {f r : Row}

/-! ### Drawing rows -/

lemma nextRow_of_emits_row (h : (Merger.ordered m).Emits n ss (r :: rows) e) :
    ∃ m' ss', nextRow n m ss = (.ok (some r), m', ss') ∧ (Merger.ordered m').Emits n ss' rows e := by
  rcases hadv : m.advance ss with ⟨a, m₁, ss₁⟩
  have hmerger : (Merger.ordered m).advance ss = (a, .ordered m₁, ss₁) := by
    simp only [Merger.advance, hadv]
  cases h with
  | row hrow hshows hrest =>
    rw [hmerger] at hrow
    cases hrow
    cases hshows with
    | copy hcurrent => simp [Merger.current] at hcurrent
    | @shard k _ s _ s' hcurrent hget hread =>
      have hk : m₁.current = some k := by simpa [Merger.current] using hcurrent
      refine ⟨m₁, _, ?_, hrest⟩
      simp only [nextRow, hadv, hk, hget, hread]

lemma nextRow_of_emits_nil (h : (Merger.ordered m).Emits n ss [] none) :
    (nextRow n m ss).1 = .ok none := by
  rcases hadv : m.advance ss with ⟨a, m₁, ss₁⟩
  cases h with
  | ended hend =>
    obtain rfl : a = .ok false := by simpa only [Merger.advance, hadv] using hend
    simp only [nextRow, hadv]

lemma nextRow_of_emits_failure {e : Failure} (h : (Merger.ordered m).Emits n ss [] (some e)) :
    (nextRow n m ss).1 = .error e := by
  rcases hadv : m.advance ss with ⟨a, m₁, ss₁⟩
  cases h with
  | failed hfail =>
    obtain rfl : a = .error e := by simpa only [Merger.advance, hadv] using hfail
    simp only [nextRow, hadv]

/-! ### Gathering a run -/

/-- A run is gathered up to its end, unless one of its rows cannot be fed or the merge fails before
the end of the run was seen. -/
lemma gather_spec (group : Group) (h : (Merger.ordered m).Emits g.columnCount ss rows e) :
    (∃ group' m' ss', gather g (g.keyOf f) group m ss =
        (.ok (group', (rows.dropWhile (g.same · f)).head?), m', ss') ∧
        (rows.takeWhile (g.same · f)).foldlM (Group.feed g) group = .ok group' ∧
        (rows.dropWhile (g.same · f) = [] → e = none) ∧
        (rows.dropWhile (g.same · f) ≠ [] →
          (Merger.ordered m').Emits g.columnCount ss' (rows.dropWhile (g.same · f)).tail e)) ∨
      (∃ e, (gather g (g.keyOf f) group m ss).1 = .error e) ∧
        ((∃ e, (rows.takeWhile (g.same · f)).foldlM (Group.feed g) group = .error e) ∨
          rows.dropWhile (g.same · f) = [] ∧ e ≠ none) := by
  induction rows generalizing m ss group with
  | nil =>
    cases e with
    | none =>
      have hnext := nextRow_of_emits_nil h
      left
      rw [gather_def]
      rcases hn : nextRow g.columnCount m ss with ⟨r, m', ss'⟩
      rw [hn] at hnext
      simp only at hnext
      subst hnext
      exact ⟨group, m', ss', rfl, rfl, fun _ => rfl, fun hne => absurd rfl hne⟩
    | some e =>
      have hnext := nextRow_of_emits_failure h
      right
      refine ⟨⟨e, ?_⟩, Or.inr ⟨rfl, Option.some_ne_none e⟩⟩
      rw [gather_def]
      rcases hn : nextRow g.columnCount m ss with ⟨r, m', ss'⟩
      rw [hn] at hnext
      simp only at hnext
      subst hnext
      rfl
  | cons r rows ih =>
    obtain ⟨m₁, ss₁, hnext, hrest⟩ := nextRow_of_emits_row h
    have hkey : (g.keyOf r).same (g.keyOf f) = g.same r f := rfl
    rw [gather_def, hnext, List.takeWhile_cons, List.dropWhile_cons]
    simp only [hkey]
    cases hsame : g.same r f with
    | false =>
      left
      exact ⟨group, m₁, ss₁, rfl, rfl, fun hnil => absurd hnil (List.cons_ne_nil r rows),
        fun _ => hrest⟩
    | true =>
      simp only [if_true, List.foldlM_cons]
      cases hfeed : group.feed g r with
      | error e' =>
        right
        exact ⟨⟨e', rfl⟩, Or.inl ⟨e', rfl⟩⟩
      | ok group' => exact ih group' hrest

/-! ### Runs -/

/-- What a stream does next if the given rows and then the given failure are still to come: it
draws the first of these rows, or it held that row back. -/
inductive Opens (g : Grouping) (m : GroupedStream) (ss : List (Shard σ)) (rows : List Row)
    (e : Option Failure) : Prop
  | failed {e'} : (m.firstRow ss).1 = .error e' → rows = [] → e ≠ none → Opens g m ss rows e
  | ended : (m.firstRow ss).1 = .ok none → rows = [] → e = none → Opens g m ss rows e
  | row {f rest m' ss'} : m.firstRow ss = (.ok (some f), m', ss') → rows = f :: rest →
      m'.grouping = g → m'.started = true →
      (Merger.ordered m'.inner).Emits g.columnCount ss' rest e → Opens g m ss rows e

/-- A stream that was not started opens the run of its ordered merge. -/
lemma opens_of_emits {m : GroupedStream} (hstarted : m.started = false)
    (h : (Merger.ordered m.inner).Emits m.grouping.columnCount ss rows e) :
    Opens m.grouping m ss rows e := by
  cases rows with
  | nil =>
    cases e with
    | none =>
      refine .ended ?_ rfl rfl
      simp [firstRow, hstarted, nextRow_of_emits_nil h]
    | some e =>
      have hfirst : (m.firstRow ss).1 = .error e := by
        simp [firstRow, hstarted, nextRow_of_emits_failure h]
      exact .failed hfirst rfl (Option.some_ne_none e)
  | cons r rows =>
    obtain ⟨m', ss', hnext, hrest⟩ := nextRow_of_emits_row h
    have hfirst : m.firstRow ss = (.ok (some r), { m with inner := m', started := true }, ss') := by
      simp [firstRow, hstarted, hnext]
    exact .row hfirst rfl rfl rfl hrest

/-- A stream between two groups opens the run that its held row begins. -/
lemma opens_of_held {m : GroupedStream} (hg : m.grouping = g) (hstarted : m.started = true)
    (hheld : m.held = rows.head?) (hnil : rows = [] → e = none)
    (hcons : rows ≠ [] → (Merger.ordered m.inner).Emits g.columnCount ss rows.tail e) :
    Opens g m ss rows e := by
  cases rows with
  | nil =>
    refine .ended ?_ rfl (hnil rfl)
    simp [firstRow, hstarted, hheld]
  | cons r rows =>
    have hfirst : m.firstRow ss = (.ok (some r), { m with held := none }, ss) := by
      simp [firstRow, hstarted, hheld]
    exact .row hfirst rfl hg hstarted (hcons (List.cons_ne_nil r rows))

/-- Emitting a run comes to its finished row and opens the next run, or it fails since the run
cannot be finished or its end is not seen. -/
lemma emit_spec {m : GroupedStream} (hstarted : m.started = true)
    (h : (Merger.ordered m.inner).Emits m.grouping.columnCount ss rows e) :
    (∃ out m' ss', m.emit f ss = (.ok true, m', ss') ∧ m'.current = some out ∧
        m.grouping.mergedRow f (f :: rows.takeWhile (m.grouping.same · f)) = .ok out ∧
        Opens m.grouping m' ss' (rows.dropWhile (m.grouping.same · f)) e) ∨
      (∃ e, (m.emit f ss).1 = .error e) ∧
        ((∃ e, m.grouping.mergedRow f (f :: rows.takeWhile (m.grouping.same · f)) = .error e) ∨
          e ≠ none) := by
  rw [emit, Grouping.mergedRow, Grouping.foldGroup_cons]
  cases Group.start m.grouping f with
  | error e' =>
    right
    exact ⟨⟨e', rfl⟩, Or.inl ⟨e', rfl⟩⟩
  | ok group =>
    simp only [Except.bind]
    rcases gather_spec (f := f) group h with
      ⟨group', inner, ss', hgather, hrun, hnil, hcons⟩ | ⟨⟨e', hgather⟩, hfail⟩
    · rw [hgather, hrun]
      simp only
      cases hfinish : group'.finish m.grouping with
      | error e' =>
        right
        exact ⟨⟨e', rfl⟩, Or.inl ⟨e', rfl⟩⟩
      | ok out =>
        left
        exact ⟨out, _, ss', rfl, rfl, rfl, opens_of_held rfl hstarted rfl hnil hcons⟩
    · right
      rcases hg : gather m.grouping (m.grouping.keyOf f) group m.inner ss with ⟨r, inner, ss'⟩
      rw [hg] at hgather
      simp only at hgather
      subst hgather
      refine ⟨⟨e', rfl⟩, hfail.imp ?_ And.right⟩
      rintro ⟨e'', hrun⟩
      exact ⟨e'', by rw [hrun]⟩

/-- A stream comes to the finished rows of all runs, in turn, exactly if its ordered merge comes to
its end and every run can be finished. -/
theorem exists_emits {m : GroupedStream} (hrows : ∀ r ∈ rows, r.length = g.columnCount)
    (h : Opens g m ss rows e) :
    ∃ out e', (Merger.groupedStream m).Emits g.columnCount ss out e' ∧
      (e' = none → e = none ∧
        List.Forall₂ (fun run r => g.mergedRow run.1 run.2 = .ok r) (g.runs rows) out) ∧
      (e = none → (∀ run ∈ g.runs rows, ∃ r, g.mergedRow run.1 run.2 = .ok r) → e' = none) := by
  -- a run takes its first row at least, so fewer rows are left for the next one
  induction hn : rows.length using Nat.strongRecOn generalizing m ss rows with
  | ind n ih =>
    cases h with
    | @failed e' hfirst hnil he =>
      refine ⟨[], some e', .failed ?_, fun h => (Option.some_ne_none e' h).elim, fun h => absurd h he⟩
      rcases hf : m.firstRow ss with ⟨r, m', ss'⟩
      rw [hf] at hfirst
      simp only at hfirst
      simp only [Merger.advance, advance, hf, hfirst]
    | ended hfirst hnil he =>
      subst hnil
      refine ⟨[], none, .ended ?_, fun _ => ⟨he, ?_⟩, fun _ _ => rfl⟩
      · rcases hf : m.firstRow ss with ⟨r, m', ss'⟩
        rw [hf] at hfirst
        simp only at hfirst
        simp only [Merger.advance, advance, hf, hfirst]
      · rw [Grouping.runs]
        exact .nil
    | @row f rest m' ss' hfirst hcons hg hstarted hrest =>
      subst hcons
      subst hg
      have hadv : m.advance ss = m'.emit f ss' := by
        simp only [advance, hfirst]
      rw [Grouping.runs]
      rcases emit_spec (f := f) hstarted hrest with
        ⟨out, m'', ss'', hemit, hcurrent, hout, hopens⟩ | ⟨⟨e', hemit⟩, hfail⟩
      · have hsub : (rest.dropWhile (m'.grouping.same · f)).Sublist rest := List.dropWhile_sublist _
        have hlen : (rest.dropWhile (m'.grouping.same · f)).length < n := by
          rw [← hn]
          exact Nat.lt_succ_of_le hsub.length_le
        rw [List.forall_mem_cons] at hrows
        obtain ⟨outs, e', hemits, hok, hprogress⟩ :=
          ih _ hlen (fun r hr => hrows.2 r (hsub.mem hr)) hopens rfl
        have hadv' : (Merger.groupedStream m).advance ss = (.ok true, .groupedStream m'', ss'') := by
          simp only [Merger.advance, hadv, hemit]
        have hwidth : out.length = m'.grouping.columnCount :=
          (Grouping.of_mergedRow_eq_ok hout).1.trans hrows.1
        refine ⟨out :: outs, e', .row hadv' (.copy ?_ hwidth) hemits, fun he' => ?_, fun he hall => ?_⟩
        · simp [Merger.current, hcurrent]
        · exact ⟨(hok he').1, .cons hout (hok he').2⟩
        · rw [List.forall_mem_cons] at hall
          exact hprogress he hall.2
      · refine ⟨[], some e', .failed ?_, fun h => (Option.some_ne_none e' h).elim, fun he hall => ?_⟩
        · simp only [Merger.advance, hadv]
          exact hemit
        · rw [List.forall_mem_cons] at hall
          obtain ⟨r, hr⟩ := hall.1
          rcases hfail with ⟨e'', hfail⟩ | hfail
          · rw [hr] at hfail
            cases hfail
          · exact absurd he hfail

end GroupedStream

end Confluence
