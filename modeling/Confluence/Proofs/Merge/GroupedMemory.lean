import Confluence.Proofs.Group.Table
import Confluence.Proofs.Merge.Runs
import Confluence.Proofs.Source.View

/-!
# The grouped merge in memory sorts the finished groups

Draining the shards adds all their rows to one table, shard by shard. So the merge comes to the
finished rows of all groups, stably sorted, unless a group fails, the sort columns of the finished
rows mix families, or there are more rows than may be held.
-/

namespace Confluence

variable {σ : Type} [RowSource σ] {V : SourceView σ} {g : Grouping} {c : Config}
  {all seen rows : List Row} {f r : Row}

/-! ### Collecting rows -/

namespace GroupTable

/-- Add rows to a table one by one, as long as the configuration allows. -/
def collect (c : Config) (g : Grouping) (t : GroupTable) : List Row → Except Failure GroupTable
  | [] => .ok t
  | r :: rows =>
    if c.exceedsBufferLimit (t.rows + 1) then .error (GroupedMemory.overflow c)
    else
      match t.add c.probing g r with
      | .error e => .error e
      | .ok t => t.collect c g rows

lemma collect_append (c : Config) (g : Grouping) (t : GroupTable) (rows rows' : List Row) :
    t.collect c g (rows ++ rows') =
      match t.collect c g rows with
      | .error e => .error e
      | .ok t => t.collect c g rows' := by
  induction rows generalizing t with
  | nil => rfl
  | cons r rows ih =>
    rw [List.cons_append, collect, collect]
    split
    · rfl
    · cases t.add c.probing g r with
      | error e => rfl
      | ok t' => exact ih t'

/-- A group that fails over some rows fails over more of them. -/
lemma exists_error_append {rows' : List Row} (hexact : ∀ a ∈ rows ++ rows', g.Exact a)
    (h : ∃ f ∈ g.firstRows rows, ∃ e, g.foldGroup f (g.members rows f) = .error e) :
    ∃ f ∈ g.firstRows (rows ++ rows'), ∃ e,
      g.foldGroup f (g.members (rows ++ rows') f) = .error e := by
  obtain ⟨f, hf, e, hfold⟩ := h
  rw [Grouping.mem_firstRows_iff fun a ha => hexact a (List.mem_append_left _ ha)] at hf
  refine ⟨f, (Grouping.mem_firstRows_iff hexact).mpr ⟨List.mem_append_left _ hf.1, ?_⟩, e, ?_⟩
  · rw [Grouping.members_append, List.head?_append, hf.2]
    rfl
  · rw [Grouping.members_append]
    exact Grouping.foldGroup_append_eq_error hfold _

/-- A table collects the groups of all rows, unless it grows too large or a group fails. -/
lemma collect_spec {t : GroupTable} (h : Holds g t seen) (hexact : ∀ a ∈ seen ++ rows, g.Exact a) :
    (∃ t', t.collect c g rows = .ok t' ∧ Holds g t' (seen ++ rows)) ∨
      ∃ e, t.collect c g rows = .error e ∧
        ((∃ n ≤ (seen ++ rows).length, c.exceedsBufferLimit n = true) ∨
          ∃ f ∈ g.firstRows (seen ++ rows), ∃ e,
            g.foldGroup f (g.members (seen ++ rows) f) = .error e) := by
  induction rows generalizing t seen with
  | nil =>
    left
    rw [List.append_nil]
    exact ⟨t, rfl, h⟩
  | cons r rows ih =>
    have hassoc : seen ++ r :: rows = seen ++ [r] ++ rows := by simp
    by_cases hfull : c.exceedsBufferLimit (t.rows + 1) = true
    · right
      refine ⟨GroupedMemory.overflow c, by rw [collect, if_pos hfull], Or.inl ⟨t.rows + 1, ?_, hfull⟩⟩
      rw [h.rows_eq, List.length_append, List.length_cons]
      exact Nat.add_le_add_left (Nat.succ_le_succ (Nat.zero_le _)) _
    -- what the table holds moves from `seen` to `seen ++ [r]`
    · have hseen (a : Row) (ha : a ∈ seen) : g.Exact a := hexact a (List.mem_append_left _ ha)
      have hr : g.Exact r := hexact r (by simp)
      rw [hassoc] at hexact ⊢
      rcases add_spec h hseen hr c.probing with ⟨t', hadd, ht'⟩ | ⟨e, hadd, f, hf, hfold⟩
      · rw [collect, if_neg hfull, hadd]
        exact ih ht' hexact
      · right
        refine ⟨e, by rw [collect, if_neg hfull, hadd], Or.inr ?_⟩
        exact exists_error_append hexact ⟨f, hf, e, hfold⟩

lemma rows_of_add {probing : Probing} {t t' : GroupTable} (h : t.add probing g r = .ok t') :
    t'.rows = t.rows + 1 := by
  rw [add] at h
  cases hgroups : addTo g r (probing (t.groups.map (·.1)) (g.keyOf r)) t.groups with
  | error e => simp [hgroups] at h
  | ok groups =>
    rw [hgroups] at h
    cases h
    rfl

/-- All rows that a table has collected may be held. -/
lemma fits_of_collect {t t' : GroupTable} (h : t.collect c g rows = .ok t') {n : Nat}
    (hlt : t.rows < n) (hle : n ≤ t.rows + rows.length) : c.exceedsBufferLimit n = false := by
  induction rows generalizing t with
  | nil => exact absurd hlt (Nat.not_lt.mpr hle)
  | cons r rows ih =>
    rw [collect] at h
    by_cases hfull : c.exceedsBufferLimit (t.rows + 1) = true
    · rw [if_pos hfull] at h
      cases h
    · rw [if_neg hfull] at h
      by_cases hn : n = t.rows + 1
      · rw [hn]
        exact Bool.eq_false_iff.mpr hfull
      · cases hadd : t.add c.probing g r with
        | error e => simp [hadd] at h
        | ok t₁ =>
          rw [hadd] at h
          have hrows := rows_of_add hadd
          rw [List.length_cons, ← Nat.add_assoc, Nat.add_right_comm] at hle
          refine ih h ?_ ?_
          · rw [hrows]
            exact Nat.lt_of_le_of_ne hlt (Ne.symm hn)
          · rwa [hrows]

/-- The finished rows of a table are those of its groups. -/
lemma finish_eq_ok_iff {t : GroupTable} (h : Holds g t all) {merged : List Row} :
    t.finish g = .ok merged ↔ g.Finished all merged := by
  rw [finish, mapM_eq_ok_iff, Grouping.Finished]
  have hfinish {f : Row} {p : GroupKey × Group} (hp : Tracks g all f p) :
      g.mergedRow f (g.members all f) = p.2.finish g := by
    rw [Grouping.mergedRow, hp.group_eq]
  have key : ∀ {fs : List Row} {gs : List (GroupKey × Group)} {merged : List Row},
      List.Forall₂ (Tracks g all) fs gs →
      (List.Forall₂ (fun p out => Group.finish g p.2 = .ok out) gs merged ↔
        List.Forall₂ (fun f out => g.mergedRow f (g.members all f) = .ok out) fs merged) := by
    intro fs gs merged hgs
    induction hgs generalizing merged with
    | nil => rw [List.forall₂_nil_left_iff, List.forall₂_nil_left_iff]
    | cons hp _ ih => simp only [List.forall₂_cons_left_iff, ih, hfinish hp]
  exact key h.groups

end GroupTable

/-! ### Draining shards -/

namespace GroupedMemory

lemma drainShard_eq (hwidth : g.columnCount = V.width) {t : GroupTable} {k : Nat} {s : Shard σ}
    {q : List Row} (hs : V.Behind k s q) : (drainShard c g t s).1 = t.collect c g q := by
  obtain ⟨current, hs⟩ := hs
  induction q generalizing t s current with
  | nil =>
    obtain ⟨s', hadv, -⟩ := hs.advance_nil
    rw [drainShard_def, hadv]
    rfl
  | cons r q ih =>
    obtain ⟨s₁, hadv, hs₁⟩ := hs.advance_cons
    obtain ⟨s₂, hread, hs₂⟩ := hs₁.readRow
    rw [← hwidth] at hread
    rw [drainShard_def, GroupTable.collect, hadv]
    simp only [hread]
    split
    · rfl
    · cases hadd : t.add c.probing g r with
      | error e => rfl
      | ok t' => exact ih (some r) hs₂

lemma drainShards_eq (hwidth : g.columnCount = V.width) {t : GroupTable} {k : Nat}
    {ss : List (Shard σ)} {queues : List (List Row)} (hss : Queued V.Behind k ss queues) :
    (drainShards c g t ss).1 = t.collect c g queues.flatten := by
  induction hss generalizing t with
  | nil => rfl
  | @cons k s ss q queues hs _ ih =>
    have h := drainShard_eq (c := c) (t := t) hwidth hs
    rw [List.flatten_cons, GroupTable.collect_append, ← h, drainShards]
    rcases drainShard c g t s with ⟨_ | t', s'⟩
    · rfl
    · exact ih

lemma settle_eq_ok_iff {o : RowOrder} {t : GroupTable} {out : List Row} :
    settle g o t = .ok out ↔
      ∃ merged, t.finish g = .ok merged ∧ o.Uniform merged ∧ out = o.sort merged := by
  rw [settle]
  cases hf : t.finish g with
  | error e => simp
  | ok merged =>
    have huniform := TypeGuard.acceptAll_keyOf_eq_ok_iff o merged
    rcases hacc : (TypeGuard.new o).acceptAll (merged.map o.keyOf) with ⟨_ | _, g'⟩
    · rw [hacc] at huniform
      simp [← huniform, hacc]
    · rw [hacc] at huniform
      simp [← huniform, hacc, eq_comm]

variable {m : GroupedMemory} {ss : List (Shard σ)} {queues : List (List Row)} {out : List Row}

/-- What is drained are the finished rows of all groups, stably sorted. -/
theorem of_drain_eq_ok (hwidth : m.grouping.columnCount = V.width)
    (hss : Queued V.Behind 0 ss queues) (hexact : ∀ a ∈ queues.flatten, m.grouping.Exact a)
    (h : (m.drain ss).1 = .ok out) :
    ∃ merged, m.grouping.Finished queues.flatten merged ∧ m.order.Uniform merged ∧
      out = m.order.sort merged := by
  have hcollect := drainShards_eq (c := m.config) (t := {}) hwidth hss
  rw [drain] at h
  rcases hd : drainShards m.config m.grouping {} ss with ⟨_ | t, ss'⟩
  · rw [hd] at h
    cases h
  · rw [hd] at h hcollect
    obtain ⟨merged, hfinish, huniform, rfl⟩ := settle_eq_ok_iff.mp h
    rcases GroupTable.collect_spec (c := m.config) (GroupTable.holds_empty m.grouping) hexact with
      ⟨t', ht', hholds⟩ | ⟨e, he, -⟩
    · rw [← hcollect] at ht'
      cases ht'
      exact ⟨merged, (GroupTable.finish_eq_ok_iff hholds).mp hfinish, huniform, rfl⟩
    · rw [← hcollect] at he
      cases he

/-- What is drained could be held. -/
lemma fits_of_drain_eq_ok (hwidth : m.grouping.columnCount = V.width)
    (hss : Queued V.Behind 0 ss queues) (h : (m.drain ss).1 = .ok out) :
    ∀ n ≤ queues.flatten.length, m.config.exceedsBufferLimit n = false := by
  intro n hn
  have hcollect := drainShards_eq (c := m.config) (t := {}) hwidth hss
  rw [drain] at h
  rcases hd : drainShards m.config m.grouping {} ss with ⟨_ | t, ss'⟩
  · rw [hd] at h
    cases h
  · rw [hd] at hcollect
    cases n with
    | zero => simp [Config.exceedsBufferLimit]
    | succ n =>
      refine GroupTable.fits_of_collect hcollect.symm (Nat.succ_pos n) ?_
      rwa [Nat.zero_add]

/-- If the rows may be held, every group can be finished and no sort column mixes families, then
the merge drains all groups. -/
theorem drain_eq_ok {merged : List Row} (hwidth : m.grouping.columnCount = V.width)
    (hss : Queued V.Behind 0 ss queues) (hexact : ∀ a ∈ queues.flatten, m.grouping.Exact a)
    (hfit : ∀ n ≤ queues.flatten.length, m.config.exceedsBufferLimit n = false)
    (hmerged : m.grouping.Finished queues.flatten merged) (huniform : m.order.Uniform merged) :
    (m.drain ss).1 = .ok (m.order.sort merged) := by
  have hcollect := drainShards_eq (c := m.config) (t := {}) hwidth hss
  rcases GroupTable.collect_spec (c := m.config) (GroupTable.holds_empty m.grouping) hexact with
    ⟨t, ht, hholds⟩ | ⟨e, -, ⟨n, hn, hfull⟩ | ⟨f, hf, e', hfold⟩⟩
  · rw [List.nil_append] at hholds
    rw [ht] at hcollect
    rw [drain]
    rcases hd : drainShards m.config m.grouping {} ss with ⟨r, ss'⟩
    rw [hd] at hcollect
    simp only at hcollect
    subst hcollect
    exact settle_eq_ok_iff.mpr
      ⟨merged, (GroupTable.finish_eq_ok_iff hholds).mpr hmerged, huniform, rfl⟩
  · rw [hfit n hn] at hfull
    cases hfull
  · exfalso
    rw [List.nil_append] at hf hfold
    have hok := forall_of_forall₂ hmerged.flip fun out _ f h => Exists.intro out h
    obtain ⟨out, hout⟩ := hok f hf
    rw [Grouping.mergedRow, hfold] at hout
    cases hout

/-! ### Runs -/

/-- Rows that wait in memory are delivered in turn. -/
lemma delivers_of_rows (hrows : m.rows = some rows) (hlen : ∀ r ∈ rows, r.length = V.width) :
    (Merger.groupedMemory m).Delivers V none rows ss := by
  induction rows generalizing m with
  | nil => simp [Merger.Delivers, Merger.advance, advance, hrows, pop]
  | cons r rows ih =>
    rw [List.forall_mem_cons] at hlen
    refine ⟨.groupedMemory { m with rows := some rows, current := some r }, ss, ?_, ?_⟩
    · simp [Merger.advance, advance, hrows, pop]
    · exact .copy rfl hlen.1 (ih rfl hlen.2)

/-- A merge in memory delivers the rows that it drains. -/
lemma delivers_of_drain_eq_ok (hrows : m.rows = none) (hdrain : (m.drain ss).1 = .ok out)
    (hlen : ∀ r ∈ out, r.length = V.width) : (Merger.groupedMemory m).Delivers V none out ss := by
  rcases hd : m.drain ss with ⟨r, ss'⟩
  rw [hd] at hdrain
  simp only at hdrain
  subst hdrain
  cases out with
  | nil => simp [Merger.Delivers, Merger.advance, advance, hrows, hd, pop]
  | cons r rows =>
    rw [List.forall_mem_cons] at hlen
    refine ⟨.groupedMemory { m with
      groupsBuilt := (r :: rows).length, rows := some rows, current := some r }, ss', ?_, ?_⟩
    · simp [Merger.advance, advance, hrows, hd, pop]
    · exact .copy rfl hlen.1 (delivers_of_rows rfl hlen.2)

/-- A merge in memory comes to the rows that it drains; it holds copies of them, so that no shard
has to be seen. -/
lemma emits_of_drain_eq_ok {n : Nat} (hrows : m.rows = none) (hdrain : (m.drain ss).1 = .ok out)
    (hlen : ∀ r ∈ out, r.length = n) : (Merger.groupedMemory m).Emits n ss out none :=
  (delivers_of_drain_eq_ok (V := .hidden n) hrows hdrain hlen).emits

/-- A merge in memory that cannot be drained comes to no row. -/
lemma emits_of_drain_eq_error {n : Nat} {e : Failure} (hrows : m.rows = none)
    (hdrain : (m.drain ss).1 = .error e) : (Merger.groupedMemory m).Emits n ss [] (some e) := by
  refine .failed ?_
  rcases hd : m.drain ss with ⟨r, ss'⟩
  rw [hd] at hdrain
  simp only at hdrain
  simp [Merger.advance, advance, hrows, hd, hdrain]

end GroupedMemory

end Confluence
