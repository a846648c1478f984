import Confluence.Proofs.Cursor.Concatenation
import Confluence.Proofs.Cursor.GroupedMemory
import Confluence.Proofs.Merge.Buffered

/-!
# The limit on rows in memory

A cursor over groups in memory reads all rows of its sources when it is first moved on. It gives up
if and only if there are more rows than may be held, and has then read one row more than that; else
it comes to the same rows under every limit.
-/

namespace Confluence

namespace Grouping

/-- Whether the aggregates of a grouping take all of some rows, one after the other. -/
def Accepts (probing : Probing) (g : Grouping) (rows : List Row) : Prop :=
  ∃ t, ({} : GroupTable).addAll probing g rows = .ok t

/-- Whether the cells that some rows have in a group column are compared with each other without
rounding. -/
def NeverRounds (g : Grouping) (rows : List Row) : Prop :=
  ∀ i ∈ g.groupColumns, Cell.NeverRounded fun v => ∃ r ∈ rows, r[i]? = some v

/-- Without rounding, all ways of probing make the same groups of some rows. -/
lemma NeverRounds.addAll {g : Grouping} {rows : List Row} (h : g.NeverRounds rows)
    {probing : Probing} (probing' : Probing) {t : GroupTable}
    (hadd : ({} : GroupTable).addAll probing g rows = .ok t) :
    ({} : GroupTable).addAll probing' g rows = .ok t := by
  have hempty : ({} : GroupTable).KeysApart
      (fun i v => (∃ r ∈ rows, r[i]? = some v) ∨ v = .null) g := GroupKey.apart_nil
  have hkeys : ∀ r ∈ rows, List.Forall₂ (fun i v => (∃ r ∈ rows, r[i]? = some v) ∨ v = .null)
      g.groupColumns (g.keyOf r) := fun r hr => keyOf_cells fun i v hv => ⟨r, hr, hv⟩
  exact hempty.addAll (fun i hi => (h i hi).or_null) hkeys probing' hadd

end Grouping

namespace Cursor

variable {labels : List String} {config : Config} {shape : Shape} {n k : Nat}
  {sources : List ScriptedSource} {c c₁ : Cursor ScriptedSource} {m : GroupedMemory}

/-! ### Opening -/

/-- A cursor over groups in memory that was opened and not moved yet. -/
structure Unmoved (sources : List ScriptedSource) (m : GroupedMemory)
    (c : Cursor ScriptedSource) : Prop where
  tidy : c.Tidy sources.length
  wellBound : (Merger.groupedMemory m).WellBound
  phase_eq : c.phase = .beforeFirst
  rowsEmitted_eq : c.rowsEmitted = 0
  isOver : c.Over m.grouping.columnCount (.groupedMemory m) (numberShards 0 sources)
  rows_eq : m.rows = none

/-- A merge of groups in memory opens under any limit on the rows in memory, however it probes. -/
lemma exists_unmoved_of_limit (hne : sources ≠ []) (hlabels : ∀ s ∈ sources, Labelled labels s)
    (hlimit : shape.limit = none) (hmerge : merge config shape sources = .ok c)
    (hmerger : c.merger = .groupedMemory m) :
    m.config = config ∧ m.grouping.columnCount = labels.length ∧
      ∀ limit probing, ∃ c',
        merge { config with maxRowsBuffered := limit, probing } shape sources = .ok c' ∧
        c'.Unmoved sources { m with config := { config with maxRowsBuffered := limit, probing } } := by
  obtain ⟨x, b, hx, hb, rfl⟩ := of_merge_eq_ok hmerge
  cases (agreedLabels_eq hne hlabels).symm.trans hx
  have hcount : b.columnCount = labels.length :=
    (BoundShape.within_of_bind_ofLabels hb).columnCount_eq
  have hstart : Merger.start config b (Strategy.choose config b) = .groupedMemory m := hmerger
  cases hchoose : Strategy.choose config b <;> rw [hchoose] at hstart <;> cases hstart
  refine ⟨rfl, hcount, fun limit probing => ?_⟩
  obtain ⟨c', hmerge', hmerger', -, hover⟩ := exists_merge_of_labelled
    { config with maxRowsBuffered := limit, probing } hne hlabels hb hlimit
  have hchoose' : Strategy.choose { config with maxRowsBuffered := limit, probing } b =
      .groupedMemory := hchoose
  rw [hchoose'] at hover
  obtain ⟨htidy, hwell, hphase, hemitted⟩ := tidy_of_merge hmerge'
  rw [hover.merger_eq] at hwell
  rw [← hcount] at hover
  exact ⟨c', hmerge', htidy, hwell, hphase, hemitted, hover, rfl⟩

/-! ### The first call to advance -/

lemma rowsRead_ended (s : Shard ScriptedSource) :
    s.ended.source.memory.rowsRead = s.source.memory.rowsRead ∧
      s.ended.source.memory.closed = true := by
  have hmemory : s.ended.source.memory = s.source.memory.close.2 := by
    show s.source.close.2.memory = _
    rw [ScriptedSource.close]
    split <;> rfl
  rw [hmemory]
  exact ⟨rfl, rfl⟩

/-- A cursor that gave up once it had read the first `n` rows of its sources: it came to no row, and
closed all sources. -/
structure GaveUp (sources : List ScriptedSource) (n : Nat) (c : Cursor ScriptedSource) : Prop where
  rowsRead_eq : c.shards.map (·.source.memory.rowsRead) = sharesOfFirst n sources
  sum_eq : (c.shards.map (·.source.memory.rowsRead)).sum = n
  rowsEmitted_eq : c.rowsEmitted = 0
  phase_eq : c.phase = .closed
  closed : ∀ s ∈ c.shards, s.closed = true ∧ s.source.memory.closed = true

namespace Unmoved

variable {r : Except Failure (List Row)} {ss : List (Shard ScriptedSource)} {t : GroupTable}

lemma wellBound_merger (h : c.Unmoved sources m) : c.merger.WellBound := by
  rw [h.isOver.merger_eq]
  exact h.wellBound

/-- The first call to advance drains all shards. If it fails they are closed, which does not change
how many rows were read. -/
lemma advance (h : c.Unmoved sources m) (hdrain : m.drain (numberShards 0 sources) = (r, ss)) :
    c.advance.1 = r.map (fun rows => !rows.isEmpty) ∧
      c.advance.2.shards.map (·.source.memory.rowsRead) = ss.map (·.source.memory.rowsRead) := by
  obtain ⟨m', hadv⟩ := GroupedMemory.exists_advance_of_drain h.rows_eq hdrain
  have hdraw := drawInWindow_of_over h.isOver hadv
  cases r with
  | error e =>
    have he : c.advance.1 = .error e := by
      rw [Cursor.advance, h.phase_eq]
      simp only [hdraw]
      rfl
    have hshards := (h.tidy.advance_error h.wellBound_merger (by simp [h.phase_eq]) he).2
    rw [hshards, hdraw, List.map_map]
    exact ⟨he, List.map_congr_left fun s _ => (rowsRead_ended s).1⟩
  | ok rows =>
    rw [Cursor.advance, h.phase_eq]
    simp only [hdraw]
    cases rows <;> exact ⟨rfl, rfl⟩

/-- A failure while all shards are drained leaves them as far as they were read. -/
lemma gaveUp (h : c.Unmoved sources m) {e : Failure}
    (hdrain : m.drain (numberShards 0 sources) = (.error e, ss)) (hss : Walked 0 n sources ss)
    (hle : n ≤ (sources.flatMap (·.memory.rows)).length) : c.advance.2.GaveUp sources n := by
  obtain ⟨he, hread⟩ := h.advance hdrain
  have hstep := h.tidy.advance fun _ => h.wellBound_merger
  have hshards := (h.tidy.advance_error h.wellBound_merger (by simp [h.phase_eq]) he).2
  rw [he] at hstep
  rw [hss.rowsRead_eq] at hread
  refine ⟨hread, hread ▸ sum_sharesOfFirst hle, ?_, ?_, ?_⟩
  · exact hstep.rowsEmitted_eq.trans h.rowsEmitted_eq
  · exact hstep.phase_eq.trans (ClientAnswer.phase_of_isFinal rfl c.phase)
  · rw [hshards]
    intro s hs
    obtain ⟨s, -, rfl⟩ := List.mem_map.mp hs
    exact ⟨rfl, (rowsRead_ended s).2⟩

/-- All rows may be held: none is left, and the only failure is that the groups cannot be sorted. -/
lemma settles (h : c.Unmoved sources m) (ht : t.Fits m.grouping)
    (hdrain : m.drain (numberShards 0 sources) = (GroupedMemory.settle m.grouping m.order t, ss))
    (hss : Walked 0 ((sources.flatMap (·.memory.rows)).length + 1) sources ss) :
    ((∃ b, c.advance.1 = .ok b) ∨
        ∃ expected got, c.advance.1 = .error (.typeMismatch expected got)) ∧
      c.advance.2.shards.map (·.source.memory.rowsRead) = sources.map (·.memory.rows.length) := by
  obtain ⟨hresult, hread⟩ := h.advance hdrain
  rw [hss.rowsRead_eq, sharesOfFirst_of_le (Nat.le_succ _)] at hread
  refine ⟨?_, hread⟩
  rw [hresult]
  cases hsettle : GroupedMemory.settle m.grouping m.order t with
  | ok out => exact Or.inl ⟨_, rfl⟩
  | error e =>
    obtain ⟨expected, got, rfl⟩ :=
      GroupedMemory.exists_typeMismatch_of_settle h.wellBound ht hsettle
    exact Or.inr ⟨expected, got, rfl⟩

/-- A table that was drained settles to the rows of the cursor, or to its failure. -/
lemma drain (h : c.Unmoved sources m) (ht : t.Fits m.grouping)
    (hdrain : m.drain (numberShards 0 sources) = (GroupedMemory.settle m.grouping m.order t, ss)) :
    c.drain.1 = match GroupedMemory.settle m.grouping m.order t with
      | .ok out => (out, none)
      | .error e => ([], some e) := by
  have hlen (out : List Row) (hout : (m.drain (numberShards 0 sources)).1 = .ok out) :
      ∀ r ∈ out, r.length = m.grouping.columnCount := by
    rw [hdrain] at hout
    obtain ⟨merged, hfinish, -, rfl⟩ := GroupedMemory.settle_eq_ok_iff.mp hout
    exact fun r hr => ht.length_of_finish hfinish r ((List.mergeSort_perm _ _).mem_iff.mp hr)
  have hrun := drain_of_memory h.isOver h.rows_eq hlen
  rw [hdrain] at hrun
  exact hrun

end Unmoved

/-- The limit on rows in memory is exact. The first call to advance gives up if and only if there
are more rows than may be held; it has then read one row more than that, in the order of the
sources. Else all rows are read, and what comes out, or the failure to sort it, is the same under
every limit that the rows are within. Under another limit the merge may choose otherwise among equal
keys, if the group columns have no cells that are rounded against each other. -/
theorem buffer_limit_is_exact (hne : sources ≠ []) (hfresh : ∀ a ∈ sources, a.origin = a)
    (hscript : ∀ a ∈ sources, a.script = {}) (hlabels : ∀ a ∈ sources, a.memory.labels = labels)
    (hfull : ∀ a ∈ sources, ∀ r ∈ a.memory.rows, r.length = labels.length)
    (hlimit : shape.limit = none) (hmerge : Cursor.merge config shape sources = .ok c)
    (hmerger : c.merger = .groupedMemory m)
    (haccepts : m.grouping.Accepts config.probing (sources.flatMap (·.memory.rows))) :
    let TooMany (limit : UInt64) : Prop :=
      limit ≠ 0 ∧ limit.toNat < (sources.flatMap (·.memory.rows)).length
    ((∃ reason ms, c.advance.1 = .error (.resourceExhausted reason ms)) ↔
        TooMany config.maxRowsBuffered) ∧
      (TooMany config.maxRowsBuffered →
        c.advance.2.GaveUp sources (config.maxRowsBuffered.toNat + 1)) ∧
      (¬ TooMany config.maxRowsBuffered →
        ((∃ b, c.advance.1 = .ok b) ∨
          ∃ expected got, c.advance.1 = .error (.typeMismatch expected got)) ∧
        c.advance.2.shards.map (·.source.memory.rowsRead) = sources.map (·.memory.rows.length) ∧
        ∀ limit probing, ¬ TooMany limit →
          probing = config.probing ∨ m.grouping.NeverRounds (sources.flatMap (·.memory.rows)) →
          ∃ c', Cursor.merge { config with maxRowsBuffered := limit, probing } shape sources =
              .ok c' ∧ c'.drain.1 = c.drain.1) := by
  intro TooMany
  have htooMany {config : Config} : TooMany config.maxRowsBuffered ↔
      config.exceedsBufferLimit (sources.flatMap (·.memory.rows)).length = true :=
    Config.exceedsBufferLimit_iff.symm
  obtain ⟨t, hadd⟩ := haccepts
  obtain ⟨rfl, hcount, hopen⟩ := exists_unmoved_of_limit hne
    (fun a ha => labelled_of_script (hscript a ha) (hlabels a ha)) hlimit hmerge hmerger
  rw [← hcount] at hfull
  have hc : c.Unmoved sources m := by
    obtain ⟨c', hmerge', hc'⟩ := hopen m.config.maxRowsBuffered m.config.probing
    cases hmerge.symm.trans hmerge'
    exact hc'
  have hwalked := walked_numberShards hfresh 0
  by_cases hexceeds : m.config.exceedsBufferLimit (sources.flatMap (·.memory.rows)).length = true
  · have hmany := htooMany.mpr hexceeds
    obtain ⟨ss, hdrain, hss⟩ :=
      GroupedMemory.drain_of_exceeds hscript hfull hwalked hadd hexceeds
    refine ⟨⟨fun _ => hmany, fun _ => ⟨_, _, (hc.advance hdrain).1⟩⟩, fun _ => ?_,
      fun hnot => absurd hmany hnot⟩
    exact hc.gaveUp hdrain hss hmany.2
  · have hnot : ¬ TooMany m.config.maxRowsBuffered := fun hmany => hexceeds (htooMany.mp hmany)
    have hfits {config : Config} (h : ¬ TooMany config.maxRowsBuffered) :
        config.exceedsBufferLimit (sources.flatMap (·.memory.rows)).length = false :=
      Bool.eq_false_iff.mpr (mt htooMany.mpr h)
    have ht : t.Fits m.grouping := by
      refine (GroupTable.fits_empty m.grouping).addAll (fun r hr => ?_) hadd
      obtain ⟨a, ha, hr⟩ := List.mem_flatMap.mp hr
      exact hfull a ha r hr
    have hadded (probing : Probing)
        (hprobing : probing = m.config.probing ∨
          m.grouping.NeverRounds (sources.flatMap (·.memory.rows))) :
        ({} : GroupTable).addAll probing m.grouping (sources.flatMap (·.memory.rows)) = .ok t := by
      rcases hprobing with rfl | hunrounded
      · exact hadd
      · exact hunrounded.addAll probing hadd
    obtain ⟨ss, hss, hdrain⟩ := GroupedMemory.drain_of_fits hscript hfull hwalked hadd
    have hdrain := hdrain m.config rfl (hfits hnot)
    obtain ⟨hresult, hread⟩ := hc.settles ht hdrain hss
    refine ⟨⟨?_, fun hmany => absurd hmany hnot⟩, fun hmany => absurd hmany hnot, fun _ =>
      ⟨hresult, hread, fun limit probing hfit hprobing => ?_⟩⟩
    · rintro ⟨reason, ms, hfail⟩
      rw [hfail] at hresult
      obtain ⟨b, hb⟩ | ⟨expected, got, hb⟩ := hresult <;> cases hb
    · obtain ⟨c', hmerge', hc'⟩ := hopen limit probing
      obtain ⟨ss', -, hdrain'⟩ :=
        GroupedMemory.drain_of_fits hscript hfull hwalked (hadded probing hprobing)
      refine ⟨c', hmerge', ?_⟩
      rw [hc.drain ht hdrain]
      exact hc'.drain ht
        (hdrain' { m.config with maxRowsBuffered := limit, probing } rfl (hfits hfit))

/-- Five rows of which two may be held: the third one, which is in the second source, is read, and
then no other. -/
theorem buffer_limit_of_five_rows :
    let shape : Shape :=
      { groupBy := [⟨.index 1, .asc, .first⟩], orderBy := [⟨.index 2, .asc, .first⟩],
        aggregates := [.of .max (.index 2)] }
    let leaf (rows : List Row) : ScriptedSource := { memory := { labels := ["k", "n"], rows } }
    let sources := [leaf [[.text "a", .null], [.text "b", .null]],
      leaf [[.text "c", .null], [.text "a", .null]], leaf [[.text "d", .null]]]
    ∃ c, Cursor.merge { maxRowsBuffered := 2 } shape sources = .ok c ∧
      (∃ reason ms, c.advance.1 = .error (.resourceExhausted reason ms)) ∧
        c.advance.2.shards.map (·.source.memory.rowsRead) = [2, 1, 0] := by
  intro shape leaf sources
  have hfresh : ∀ a ∈ sources, a.origin = a := by
    simp only [sources, List.forall_mem_cons, List.not_mem_nil, false_implies, implies_true]
    exact ⟨rfl, rfl, rfl, trivial⟩
  have hscript : ∀ a ∈ sources, a.script = {} := by
    simp only [sources, List.forall_mem_cons, List.not_mem_nil, false_implies, implies_true]
    exact ⟨rfl, rfl, rfl, trivial⟩
  have hlabels : ∀ a ∈ sources, a.memory.labels = ["k", "n"] := by decide
  obtain ⟨c, hmerge⟩ : ∃ c, Cursor.merge { maxRowsBuffered := 2 } shape sources = .ok c := ⟨_, rfl⟩
  obtain ⟨m, hmerger, haccepts⟩ : ∃ m, c.merger = .groupedMemory m ∧
      m.grouping.Accepts (Config.probing {}) (sources.flatMap (·.memory.rows)) := by
    cases hmerge
    exact ⟨_, rfl, _, rfl⟩
  obtain ⟨hfails, hgives, -⟩ := buffer_limit_is_exact (List.cons_ne_nil _ _) hfresh hscript hlabels
    (by decide) rfl hmerge hmerger haccepts
  have hmany : (2 : UInt64) ≠ 0 ∧ (2 : UInt64).toNat < 5 := by decide
  exact ⟨c, hmerge, hfails.mpr hmany, (hgives hmany).rowsRead_eq⟩

end Cursor

end Confluence
