import Confluence.Proofs.Cursor.Emitted
import Confluence.Proofs.Cursor.Limited

/-!
# Ordered merges move no more than they have to

What a session over leaves makes of the steps of an ordered merge: no row is lost, and between two
rows only the shard whose row went out last is advanced.
-/

namespace Confluence.Cursor

variable {config : Config} {shape : Shape} {sources : List ScriptedSource} {b : BoundShape}
  {c : Cursor ScriptedSource}

/-! ### Opening -/

lemma getElem?_numberShards {σ : Type} (sources : List σ) (n k : Nat) :
    (numberShards n sources)[k]? =
      sources[k]?.map fun s => { number := n + k, source := s } := by
  induction sources generalizing n k with
  | nil => rfl
  | cons s sources ih =>
    cases k with
    | zero => rfl
    | succ k =>
      rw [numberShards, List.getElem?_cons_succ, List.getElem?_cons_succ, ih, Nat.add_assoc,
        Nat.add_comm 1]

lemma length_numberShards {σ : Type} (sources : List σ) (n : Nat) :
    (numberShards n sources).length = sources.length := by
  induction sources generalizing n with
  | nil => rfl
  | cons s sources ih => rw [numberShards, List.length_cons, List.length_cons, ih]

/-- Leaves that were not called yet are where a merge finds them. -/
lemma stepped_numberShards (hfresh : ∀ s ∈ sources, s.origin = s) {k : Nat} {a : ScriptedSource}
    {s : Shard ScriptedSource} (ha : sources[k]? = some a)
    (hs : (numberShards 0 sources)[k]? = some s) : Stepped a k 0 s := by
  rw [getElem?_numberShards, ha, Nat.zero_add] at hs
  cases hs
  exact .of_origin (hfresh a (List.mem_of_getElem? ha))

/-- A merge without a limit that was opened, and whose merge has not moved. -/
lemma logs_of_merge {I : List (Row × Nat) → Merger → List (Shard ScriptedSource) → Prop}
    {E : List (Row × Nat) → Merger → Prop} (hlimit : shape.limit = none)
    (hmerge : merge config shape sources = .ok c) (hI : I [] c.merger c.shards) :
    c.Logs I E sources.length [] := by
  obtain ⟨htidy, hbound, hphase, -⟩ := tidy_of_merge hmerge
  obtain ⟨x, b, -, -, rfl⟩ := of_merge_eq_ok hmerge
  refine ⟨htidy, fun _ => hbound, fun _ => ⟨?_, hI⟩, fun hend => ?_⟩
  · rw [assemble, paginationOf, hlimit]
    rfl
  · rw [hphase] at hend
    cases hend

/-! ### The current row -/

/-- What a client reads of the current row is what the shard sits on. -/
lemma eq_take_of_currentRow {k p : Nat} {a : ScriptedSource} {s : Shard ScriptedSource}
    {r row : Row} (hphase : c.phase = .onRow) (hpagination : c.pagination = none)
    (hcurrent : c.merger.current = some (.shard k)) (hs : c.shards[k]? = some s)
    (hstepped : Stepped a k (p + 1) s) (hr : a.memory.rows[p]? = some r)
    (hrow : c.currentRow.1 = .ok row) : row = r.take c.columnCount := by
  have hblind : Blind ScriptedSource.Like :=
    ⟨ScriptedSource.answerAlike_like, ScriptedSource.still_like, .refl⟩
  obtain ⟨hlen, hcells, -⟩ := of_readFrom_eq_ok hblind hphase hpagination
    (hblind.refl_shards c.shards) (show c.readFrom (0 + 1) c.columnCount = _ from Prod.ext hrow rfl)
  have hcell {j : Nat} (hj : j < row.length) : r[j]? = some row[j] := by
    have hread := hcells j hj
    simp only [readAt, hcurrent, hs, Nat.zero_add] at hread
    exact ((hstepped.value hr j).of_eq_ok (Prod.ext hread rfl)).1
  refine List.ext_getElem? fun j => ?_
  rw [List.getElem?_take]
  split
  next hj => rw [hcell (hlen.symm ▸ hj), List.getElem?_eq_getElem]
  next hj => rw [List.getElem?_eq_none_iff, hlen]; omega

/-! ### Ordered merges -/

lemma pace_numberShards (hfresh : ∀ s ∈ sources, s.origin = s) (o : RowOrder) :
    (OrderedMerge.new o).Pace o sources [] (numberShards 0 sources) where
  order_eq := rfl
  current_eq _ := rfl
  fronted := by
    refine ⟨[], rfl, length_numberShards sources 0, List.forall_mem_nil _, fun _ => List.nil_prefix,
      fun _ => rfl, fun ha hs => ?_⟩
    exact stepped_numberShards hfresh ha hs

/-- A merge with an order that was opened over leaves that were not called yet. -/
lemma exists_pace_of_merge (hfresh : ∀ s ∈ sources, s.origin = s)
    (hungrouped : shape.isGrouped = false) (horder : shape.orderBy ≠ [])
    (hlimit : shape.limit = none) (hmerge : merge config shape sources = .ok c)
    (hbind : BoundShape.bind c.labels shape = .ok b) :
    ∃ m, c.merger = .ordered m ∧ m.Pace b.orderBy sources [] c.shards := by
  obtain ⟨x, b', -, hb', rfl⟩ := of_merge_eq_ok hmerge
  have hlabels : (assemble config shape (numberShards 0 sources) x b').labels = x := by
    simp [assemble, hlimit, placeRowNumber]
  rw [hlabels, hb'] at hbind
  cases hbind
  have horder' := mt (BoundShape.orderBy_eq_nil_iff_of_bind hb').mp horder
  have hchoose : Strategy.choose config b = .ordered := by
    simp [Strategy.choose, BoundShape.isGrouped_of_bind hb', hungrouped, horder']
  refine ⟨.new b.orderBy, ?_, pace_numberShards hfresh b.orderBy⟩
  rw [assemble, hchoose]
  rfl

/-- An ordered merge of leaves, which need not be sorted and may fail, loses no row and touches only
the source that it needs. After any advance that did not fail it accounts for all rows that went
out; the row that went out last is the least of those that came next; and at the end every row
went out. -/
theorem ordered_merge_accounts {moved : Bool} {c' : Cursor ScriptedSource} {calls : List ClientCall}
    (hfresh : ∀ s ∈ sources, s.origin = s) (hungrouped : shape.isGrouped = false)
    (horder : shape.orderBy ≠ []) (hlimit : shape.limit = none)
    (hmerge : merge config shape sources = .ok c) (hbind : BoundShape.bind c.labels shape = .ok b)
    (hexact : ∀ s ∈ sources, ∀ r ∈ s.memory.rows, b.orderBy.Exact r) (hdrop : .drop ∉ calls)
    (hadvance : (c.run calls).2.advance = (.ok moved, c')) :
    ∃ m, c'.merger = .ordered m ∧ m.order = b.orderBy ∧
      m.Accounts sources (c.emitted (calls ++ [.advance])) c'.shards ∧
      (moved = true → ∃ x, c.emitted (calls ++ [.advance]) = c.emitted calls ++ [x] ∧
        m.current = some x.2 ∧ OrderedMerge.IsNext b.orderBy sources (c.emitted calls) x ∧
        ∀ row, c'.currentRow.1 = .ok row → row = x.1.take c'.columnCount) ∧
      (moved = false → c.emitted (calls ++ [.advance]) = c.emitted calls ∧ m.current = none ∧
        ∀ k s, sources[k]? = some s → rowsOf k (c.emitted calls) = s.memory.rows) := by
  have hstart := exists_pace_of_merge hfresh hungrouped horder hlimit hmerge hbind
  have hlogs := (logs_of_merge hlimit hmerge hstart).run (OrderedMerge.paces hexact) hdrop
  rw [List.nil_append] at hlogs
  rw [emitted_append_advance hdrop, emittedBy_advance hadvance]
  generalize (c.run calls).2 = c₁ at hlogs hadvance
  generalize c.emitted calls = log at hlogs
  rcases of_advance_eq_ok (fun hopen => (hlogs.rows hopen).1) hadvance with
    ⟨hphase, rfl, rfl⟩ | ⟨hopen, hdraw, hpagination, -, -, hphase⟩
  · obtain ⟨m, hm, hpace⟩ := (hlogs.rows (by simp [hphase])).2
    obtain ⟨m', hm', hend⟩ := hlogs.atEnd hphase
    obtain rfl : m = m' := Merger.ordered.inj (hm.symm.trans hm')
    rw [if_neg Bool.false_ne_true, List.append_nil]
    refine ⟨m, hm, hpace.order_eq, hpace.accounts hend.started, Bool.noConfusion, fun _ => ?_⟩
    exact ⟨rfl, hend.current_eq, fun k s => hend.all⟩
  · obtain ⟨m, hm, hpace⟩ := (hlogs.rows hopen).2
    rcases hmoved : m.advance c₁.shards with ⟨r, m₁, ss₁⟩
    simp only [hm, Merger.advance, hmoved, Prod.mk.injEq] at hdraw
    obtain ⟨rfl, hm₁, rfl⟩ := hdraw
    obtain ⟨hstarted, hrow, hend⟩ := (hpace.advance hexact).of_eq_ok hmoved
    cases moved with
    | true =>
      obtain ⟨x, hcurrent, hnext, hpace₁⟩ := hrow rfl
      have hshown := hpace₁.numberedRow?_eq hnext hcurrent
      rw [if_pos rfl, ← hm₁, hshown]
      refine ⟨m₁, rfl, hpace₁.order_eq, hpace₁.accounts hstarted, fun _ => ⟨x, rfl, hcurrent, hnext,
        fun row hrow => ?_⟩, Bool.noConfusion⟩
      obtain ⟨a, s, p, hs, hstepped, hr⟩ := hpace₁.exists_stepped hnext hcurrent
      refine eq_take_of_currentRow hphase hpagination ?_ hs hstepped hr hrow
      rw [← hm₁, Merger.current, hcurrent]
      rfl
    | false =>
      obtain ⟨hcurrent, hpace₁, hall⟩ := hend rfl
      rw [if_neg Bool.false_ne_true, List.append_nil]
      exact ⟨m₁, hm₁.symm, hpace₁.order_eq, hpace₁.accounts hstarted, Bool.noConfusion,
        fun _ => ⟨rfl, hcurrent, hall⟩⟩

/-- Of two sources the first one is not sorted, and the second one would fail behind its last row. A
row goes out when it is the least of the two in front. -/
theorem ordered_merge_accounts_of_failing_source :
    let sources : List ScriptedSource :=
      [{ memory :=
          { labels := ["k"], rows := [[.int32 ⟨3, by decide⟩], [.int32 ⟨1, by decide⟩]] } },
        { memory :=
            { labels := ["k"], rows := [[.int32 ⟨2, by decide⟩], [.int32 ⟨4, by decide⟩]] }
          script := { advance := some (2, Failure.io "lost") } }]
    ∃ c c' m, Cursor.merge {} { orderBy := [⟨.index 1, .asc, .first⟩] } sources = .ok c ∧
      (c.run [.advance, .advance]).2.advance = (.ok true, c') ∧ c'.merger = .ordered m ∧
      m.Accounts sources [([.int32 ⟨2, by decide⟩], 1), ([.int32 ⟨3, by decide⟩], 0),
        ([.int32 ⟨1, by decide⟩], 0)] c'.shards := by
  intro sources
  let o : RowOrder := [⟨0, .asc, .first⟩]
  obtain ⟨c, hc⟩ : ∃ c, Cursor.merge {} { orderBy := [⟨.index 1, .asc, .first⟩] } sources = .ok c :=
    ⟨_, rfl⟩
  have hfresh : ∀ s ∈ sources, s.origin = s := by
    rw [List.forall_mem_cons, List.forall_mem_singleton]
    exact ⟨rfl, rfl⟩
  have hbind : BoundShape.bind c.labels { orderBy := [⟨.index 1, .asc, .first⟩] } =
      .ok ⟨1, [], o, []⟩ := by
    cases hc
    rfl
  have hexact : ∀ s ∈ sources, ∀ r ∈ s.memory.rows, o.Exact r := by decide
  have hadvance : (c.run [.advance, .advance]).2.advance.1 = .ok true := by
    cases hc
    rfl
  have hemitted : c.emitted [.advance, .advance, .advance] = [([.int32 ⟨2, by decide⟩], 1),
      ([.int32 ⟨3, by decide⟩], 0), ([.int32 ⟨1, by decide⟩], 0)] := by
    cases hc
    rfl
  obtain ⟨m, hm, -, haccounts, -⟩ := ordered_merge_accounts hfresh rfl (List.cons_ne_nil _ _) rfl hc
    hbind hexact (by decide) (Prod.ext hadvance rfl)
  refine ⟨c, _, m, hc, Prod.ext hadvance rfl, hm, ?_⟩
  rw [← hemitted]
  exact haccounts

end Confluence.Cursor
