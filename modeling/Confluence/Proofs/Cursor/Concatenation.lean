import Confluence.Proofs.Cursor.Open
import Confluence.Proofs.Cursor.Progress
import Confluence.Proofs.Merge.Walked

/-!
# Concatenations are lazy

A session over leaves without failures whose merge is a concatenation. Reading neither moves the
merge nor ends the session, so after any calls the number of advances alone says which row is the
current one, and how often each leaf was advanced.
-/

namespace Confluence.Cursor

/-! ### Reads that lose no shard -/

section Reading

variable {σ : Type} [RowSource σ] {c : Cursor σ} {i : Nat} {t : SqlType}

lemma isLost_readCurrent (h : ∀ s ∈ c.shards, isLost (s.value i t).1 = false) :
    isLost (c.readCurrent i t).1 = false := by
  rw [readCurrent]
  split
  · split
    next s hs => exact h s (List.mem_of_getElem? hs)
    · rfl
  · rw [readCopy]
    split
    · exact Cell.isLost_coerce _ t
    · rfl
  · rfl

lemma isLost_readColumn (h : ∀ s ∈ c.shards, isLost (s.value i t).1 = false) :
    isLost (c.readColumn i t).1 = false := by
  rw [readColumn]
  split
  · split
    · exact Cell.isLost_coerce (rowNumberCell _) t
    · exact isLost_readCurrent h
  · exact isLost_readCurrent h

/-- A read of a cursor loses a source only if reading one of its shards does. -/
lemma isLost_value (h : ∀ s ∈ c.shards, isLost (s.value i t).1 = false) :
    isLost (c.value i t).1 = false := by
  have hcolumn := isLost_readColumn h
  rw [value]
  split
  · rfl
  · rfl
  · rfl
  · split
    · rfl
    · rcases hr : c.readColumn i t with ⟨e | v, c'⟩ <;> rw [hr] at hcolumn
      · simp only
        split <;> exact hcolumn
      · rfl

end Reading

/-- The scripts of all leaves are without failures to read. -/
def Quiet (c : Cursor ScriptedSource) : Prop := ∀ s ∈ c.shards, s.source.script.LetsRead

variable {c d : Cursor ScriptedSource} {sources : List ScriptedSource} {n k : Nat}

lemma Quiet.of_like (h : c.Quiet) (hlike : c.Like ScriptedSource.Rests d) : d.Quiet := by
  intro s hs
  obtain ⟨s₀, hs₀, hrests⟩ := exists_mem_of_forall₂ hlike.shards hs
  rw [hrests.source.script_eq]
  exact h s₀ hs₀

lemma Quiet.isLost_value (h : c.Quiet) (i : Nat) (t : SqlType) :
    isLost (c.value i t).1 = false :=
  Cursor.isLost_value fun s hs => Shard.isLost_value (h s hs) i t

lemma Quiet.isLost_readFrom (h : c.Quiet) (first n : Nat) :
    isLost (c.readFrom first n).1 = false := by
  induction n generalizing c first with
  | zero => rfl
  | succ n ih =>
    have hvalue := h.isLost_value first .any
    have hrests := still_value ScriptedSource.still_rests c.rests_refl hvalue
    rw [readFrom]
    rcases hv : c.value first .any with ⟨e | v, c₁⟩ <;> rw [hv] at hvalue hrests
    · exact hvalue
    · have hrest := ih (h.of_like hrests) (first + 1)
      rcases hvs : c₁.readFrom (first + 1) n with ⟨e | vs, c₂⟩ <;> rw [hvs] at hrest
      · simp only
        rw [hvs]
        exact hrest
      · simp only
        rw [hvs]
        rfl

/-- Reading leaves without failures does not end a session. -/
lemma Quiet.isFinal_answer (h : c.Quiet) {call : ClientCall} (hadvance : call ≠ .advance)
    (hclose : call ≠ .close) (hdrop : call ≠ .drop) : (c.answer call).1.isFinal = false := by
  cases call with
  | advance => exact absurd rfl hadvance
  | value i t => exact (ClientAnswer.isFinal_value _).trans (h.isLost_value i t)
  | valueByLabel label t =>
    refine (ClientAnswer.isFinal_value _).trans ?_
    rw [Cursor.valueByLabel]
    split
    · exact h.isLost_value _ t
    · rfl
  | currentRow => exact (ClientAnswer.isFinal_row _).trans (h.isLost_readFrom 1 c.columnCount)
  | wasNull => rfl
  | close => exact absurd rfl hclose
  | drop => exact absurd rfl hdrop

/-! ### Sessions -/

/-- A cursor of some width over leaves without failures that was moved on `k` times. -/
structure Concatenates (sources : List ScriptedSource) (width k : Nat) (c : Cursor ScriptedSource) :
    Prop where
  columnCount_eq : c.columnCount = width
  pagination_eq : c.pagination = none
  merger : ∃ m, c.merger = .concat m ∧
    m.Pace sources (min k ((numberedRows 0 sources).length + 1)) c.shards
  phase_eq : c.phase = if k = 0 then .beforeFirst else
    if k ≤ (numberedRows 0 sources).length then .onRow else .exhausted

namespace Concatenates

variable {width : Nat}

lemma quiet (hscript : ∀ a ∈ sources, a.script.LetsRead)
    (h : c.Concatenates sources width k) : c.Quiet := by
  intro s hs
  obtain ⟨m, -, hpace⟩ := h.merger
  obtain ⟨i, hi⟩ := List.mem_iff_getElem?.mp hs
  obtain ⟨a, p, ha, hstepped⟩ := hpace.walked.of_getElem? hi
  rw [hstepped.script_eq]
  exact hscript a (List.mem_of_getElem? ha)

lemma of_like (h : c.Concatenates sources width k) (hlike : c.Like ScriptedSource.Rests d) :
    d.Concatenates sources width k where
  columnCount_eq := hlike.columnCount_eq.symm.trans h.columnCount_eq
  pagination_eq := hlike.pagination_eq.symm.trans h.pagination_eq
  merger := by
    obtain ⟨m, hm, hpace⟩ := h.merger
    exact ⟨m, hlike.merger.symm.trans hm, hpace.rests hlike.shards⟩
  phase_eq := hlike.phase_eq.symm.trans h.phase_eq

/-- The shard that the current row is read from. -/
lemma exists_stepped (h : c.Concatenates sources width (k + 1)) {x : Row × Nat}
    (hx : (numberedRows 0 sources)[k]? = some x) :
    c.merger.current = some (.shard x.2) ∧ ∃ a s p, c.shards[x.2]? = some s ∧
      Stepped a x.2 (p + 1) s ∧ a.memory.rows[p]? = some x.1 := by
  obtain ⟨m, hm, hpace⟩ := h.merger
  have hlt := (List.getElem?_eq_some_iff.mp hx).1
  rw [Nat.min_eq_left (Nat.succ_le_succ (Nat.le_of_lt hlt))] at hpace
  obtain ⟨hcurrent, hstepped⟩ := hpace.exists_stepped hx
  rw [hm, Merger.current, hcurrent]
  exact ⟨rfl, hstepped⟩

/-- An advance comes to the next of all rows, or there is none. -/
lemma advance (hscript : ∀ a ∈ sources, a.script.LetsAdvance)
    (h : c.Concatenates sources width k) :
    c.advance.1 = .ok (decide (k < (numberedRows 0 sources).length)) ∧
      c.advance.2.Concatenates sources width (k + 1) ∧
      c.emittedBy .advance = (numberedRows 0 sources)[k]?.toList := by
  have hphase := h.phase_eq
  obtain ⟨m, hm, hpace⟩ := h.merger
  rcases Nat.lt_or_ge (numberedRows 0 sources).length k with hlt | hle
  · rw [if_neg (Nat.ne_zero_of_lt hlt), if_neg (Nat.not_le.mpr hlt)] at hphase
    have hadvance : c.advance = (.ok false, c) := by simp only [Cursor.advance, hphase]
    rw [emittedBy_advance hadvance, if_neg Bool.false_ne_true, hadvance,
      List.getElem?_eq_none (Nat.le_of_lt hlt), decide_eq_false (Nat.not_lt.mpr (Nat.le_of_lt hlt))]
    refine ⟨rfl, ⟨h.columnCount_eq, h.pagination_eq, ⟨m, hm, ?_⟩, ?_⟩, rfl⟩
    · rw [Nat.min_eq_right hlt] at hpace
      rwa [Nat.min_eq_right (Nat.succ_le_succ (Nat.le_of_lt hlt))]
    · rw [if_neg (Nat.succ_ne_zero k), if_neg (Nat.not_le.mpr (Nat.lt_succ_of_lt hlt))]
      exact hphase
  · rw [Nat.min_eq_left (Nat.le_succ_of_le hle)] at hpace
    obtain ⟨m', ss', hmoved, hpace'⟩ := hpace.advance hscript
    have hlive : c.phase = .beforeFirst ∨ c.phase = .onRow := by
      rw [hphase, if_pos hle]
      split
      · exact Or.inl rfl
      · exact Or.inr rfl
    have hadvance := advance_eq_moved (m := .concat m') hlive h.pagination_eq
      (by rw [hm, Merger.advance, hmoved])
    have hnext : c.advance.2.Concatenates sources width (k + 1) := by
      have hmin : min (k + 1) ((numberedRows 0 sources).length + 1) = k + 1 :=
        Nat.min_eq_left (Nat.succ_le_succ hle)
      rw [← hmin] at hpace'
      rw [hadvance]
      by_cases hlt : k + 1 ≤ (numberedRows 0 sources).length
      · rw [decide_eq_true (Nat.lt_of_succ_le hlt)]
        refine ⟨h.columnCount_eq, h.pagination_eq, ⟨m', rfl, hpace'⟩, ?_⟩
        rw [if_neg (Nat.succ_ne_zero k), if_pos hlt]
        rfl
      · rw [decide_eq_false (mt Nat.succ_le_of_lt hlt)]
        refine ⟨h.columnCount_eq, h.pagination_eq, ⟨m', rfl, hpace'⟩, ?_⟩
        rw [if_neg (Nat.succ_ne_zero k), if_neg hlt]
        rfl
    have hanswer : c.advance.1 = .ok (decide (k < (numberedRows 0 sources).length)) := by
      rw [hadvance]
    refine ⟨hanswer, hnext, ?_⟩
    rw [emittedBy_advance (Prod.ext hanswer rfl)]
    cases hx : (numberedRows 0 sources)[k]? with
    | none =>
      rw [decide_eq_false (Nat.not_lt.mpr (List.getElem?_eq_none_iff.mp hx))]
      rfl
    | some x =>
      obtain ⟨hcurrent, a, s, p, hs, hstepped, hr⟩ := hnext.exists_stepped hx
      rw [decide_eq_true (List.getElem?_eq_some_iff.mp hx).1, if_pos rfl,
        Merger.numberedRow?_eq hcurrent hs hstepped hr]

/-- After any calls the number of advances among them says where the cursor is. -/
theorem run (hscript : ∀ a ∈ sources, a.script = {}) (h : c.Concatenates sources width k)
    {calls : List ClientCall} (hclose : .close ∉ calls) (hdrop : .drop ∉ calls) :
    (c.run calls).2.Concatenates sources width (k + calls.count .advance) ∧
      (numberedRows 0 sources).take k ++ c.emitted calls =
        (numberedRows 0 sources).take (k + calls.count .advance) := by
  have hadvances : ∀ a ∈ sources, a.script.LetsAdvance := fun a ha =>
    .of_empty (hscript a ha)
  have hvalues : ∀ a ∈ sources, a.script.LetsRead := fun a ha => .of_empty (hscript a ha)
  induction calls generalizing c k with
  | nil => exact ⟨h, List.append_nil _⟩
  | cons call calls ih =>
    rw [List.mem_cons, not_or] at hclose hdrop
    rw [run_cons (Ne.symm hdrop.1), emitted, if_neg (Ne.symm hdrop.1), ← List.append_assoc]
    by_cases hcall : call = .advance
    · subst hcall
      obtain ⟨-, hnext, hrow⟩ := h.advance hadvances
      rw [List.count_cons_self, Nat.add_comm (calls.count _), ← Nat.add_assoc, hrow,
        ← List.take_add_one]
      exact ih hnext hclose.2 hdrop.2
    · have hfinal := (h.quiet hvalues).isFinal_answer hcall (Ne.symm hclose.1) (Ne.symm hdrop.1)
      rw [List.count_cons_of_ne hcall, emittedBy_of_ne c hcall, List.append_nil]
      have hlike := still_answer ScriptedSource.still_rests c.rests_refl hcall hfinal
      exact ih (h.of_like hlike) hclose.2 hdrop.2

/-- What a client reads of the current row is all of it. -/
lemma currentRow (hscript : ∀ a ∈ sources, a.script.LetsRead)
    (h : c.Concatenates sources width (k + 1)) {x : Row × Nat}
    (hx : (numberedRows 0 sources)[k]? = some x) (hfull : x.1.length = width) :
    c.currentRow.1 = .ok x.1 := by
  obtain ⟨hcurrent, a, s, p, hs, hstepped, hr⟩ := h.exists_stepped hx
  have hphase := h.phase_eq
  rw [if_neg (Nat.succ_ne_zero k),
    if_pos (Nat.succ_le_of_lt (List.getElem?_eq_some_iff.mp hx).1)] at hphase
  have hquiet := h.quiet hscript s (List.mem_of_getElem? hs)
  rw [hstepped.script_eq] at hquiet
  have hread := hstepped.readColumns hr (List.range width)
  rcases hcells : s.readColumns (List.range width) with ⟨e | cells, s'⟩
  · rcases hread.of_eq_error hcells with hvalue | ⟨i, hi, hlen⟩
    · exact absurd hquiet hvalue
    · rw [hfull] at hlen
      exact absurd (List.mem_range.mp hi) (Nat.not_lt.mpr hlen)
  · obtain ⟨rfl, -⟩ := hread.of_eq_ok hcells
    rw [Row.map_cell_range hfull] at hcells
    have hover : c.Over width c.merger c.shards :=
      ⟨rfl, rfl, Or.inr hphase, h.pagination_eq, h.columnCount_eq⟩
    obtain ⟨c', hrow, -⟩ := currentRow_of_shows hover hphase (.shard hcurrent hs hcells)
    rw [hrow]

end Concatenates

/-! ### Opening -/

variable {labels : List String} {shape : Shape}

/-- At the start no step was spent on the leaves. -/
lemma walked_numberShards (hfresh : ∀ a ∈ sources, a.origin = a) (k : Nat) :
    Walked k 0 sources (numberShards k sources) := by
  induction sources generalizing k with
  | nil => exact .nil
  | cons a sources ih =>
    rw [List.forall_mem_cons] at hfresh
    refine .cons ?_ ?_
    · rw [Nat.zero_min]
      exact .of_origin hfresh.1
    · rw [Nat.zero_sub]
      exact ih hfresh.2 (k + 1)

lemma labelled_of_script {a : ScriptedSource} (hscript : a.script = {})
    (hlabels : a.memory.labels = labels) : Labelled labels a where
  columnCount_eq := congrArg List.length hlabels
  exists_columnLabel {i} hi := by
    refine ⟨labels[i], ?_, rfl⟩
    simp only [RowSource.columnLabel, ScriptedSource.columnLabel, hscript,
      MemorySource.columnLabel, hlabels, List.getElem?_eq_getElem hi]

lemma exists_concatenates (config : Config) (hne : sources ≠ [])
    (hfresh : ∀ a ∈ sources, a.origin = a) (hscript : ∀ a ∈ sources, a.script = {})
    (hlabels : ∀ a ∈ sources, a.memory.labels = labels) (hungrouped : shape.isGrouped = false)
    (horder : shape.orderBy = []) (hlimit : shape.limit = none) :
    ∃ c, Cursor.merge config shape sources = .ok c ∧
      c.Concatenates sources labels.length 0 := by
  obtain ⟨c, hmerge, -, hphase, hover⟩ := exists_merge_of_labelled config hne
    (fun a ha => labelled_of_script (hscript a ha) (hlabels a ha))
    (BoundShape.bind_of_not_isGrouped hungrouped horder _) hlimit
  refine ⟨c, hmerge, hover.columnCount_eq, hover.unlimited, ⟨{}, hover.merger_eq, ?_⟩, hphase⟩
  rw [hover.shards_eq, Nat.zero_min]
  exact ⟨walked_numberShards hfresh 0, List.forall_mem_nil _, fun hp => absurd hp.symm
    (Nat.succ_ne_zero _)⟩

/-! ### What a client sees -/

/-- A concatenation of leaves after `k` advances that came to the rows in a log: it gave the rows of
the leaves in turn, and advanced no leaf before the row that it is asked for. -/
structure IsLazy (sources : List ScriptedSource) (k : Nat) (log : List (Row × Nat))
    (c : Cursor ScriptedSource) : Prop where
  length_eq : c.shards.length = sources.length
  emitted : log.map (·.1) = (sources.flatMap (·.memory.rows)).take k
  advance : c.advance.1 = .ok (decide (k + 1 ≤ (sources.flatMap (·.memory.rows)).length))
  onRow : c.phase = .onRow ↔ 1 ≤ k ∧ k ≤ (sources.flatMap (·.memory.rows)).length
  row : c.phase = .onRow → ∃ j r, c.merger.current = some (.shard j) ∧ j < sources.length ∧
    (sources.flatMap (·.memory.rows))[k - 1]? = some r ∧ c.currentRow.1 = .ok r ∧
    ∀ i a s, sources[i]? = some a → c.shards[i]? = some s →
      (i < j → s.source.advances = a.memory.rows.length + 1) ∧
      (j < i → s.source.advances = 0)

lemma Concatenates.isLazy {width : Nat} {log : List (Row × Nat)}
    (hscript : ∀ a ∈ sources, a.script = {})
    (hfull : ∀ a ∈ sources, ∀ r ∈ a.memory.rows, r.length = width)
    (h : c.Concatenates sources width k) (hlog : log = (numberedRows 0 sources).take k) :
    c.IsLazy sources k log := by
  obtain ⟨m, hm, hpace⟩ := h.merger
  have hadvance := h.advance fun a ha => .of_empty (hscript a ha)
  have hlength : (sources.flatMap (·.memory.rows)).length = (numberedRows 0 sources).length := by
    rw [← map_fst_numberedRows 0, List.length_map]
  have honRow : c.phase = .onRow ↔ 1 ≤ k ∧ k ≤ (sources.flatMap (·.memory.rows)).length := by
    rw [h.phase_eq, hlength]
    split
    next hk => simp [hk]
    next hk =>
      have hpos := Nat.one_le_iff_ne_zero.mpr hk
      split
      next hle => simp [hpos, hle]
      next hle => simp [hle]
  refine ⟨hpace.walked.length_eq, ?_, ?_, honRow, fun hrow => ?_⟩
  · rw [hlog, List.map_take, map_fst_numberedRows]
  · rw [hadvance.1, hlength]
    rfl
  · obtain ⟨hpos, hle⟩ := honRow.mp hrow
    obtain ⟨p, rfl⟩ : ∃ p, k = p + 1 := ⟨k - 1, (Nat.sub_add_cancel hpos).symm⟩
    rw [hlength] at hle
    rw [Nat.min_eq_left (Nat.le_succ_of_le hle)] at hpace
    obtain ⟨x, hx⟩ : ∃ x, (numberedRows 0 sources)[p]? = some x :=
      ⟨_, List.getElem?_eq_getElem (Nat.lt_of_succ_le hle)⟩
    have hmem := List.mem_of_getElem? hx
    have hr : (sources.flatMap (·.memory.rows))[p]? = some x.1 := by
      rw [← map_fst_numberedRows 0, List.getElem?_map, hx]
      rfl
    obtain ⟨b, hb, hrb⟩ := List.mem_flatMap.mp (List.mem_of_getElem? hr)
    refine ⟨x.2, x.1, (h.exists_stepped hx).1, ?_, hr, ?_, fun i a s ha hs => ?_⟩
    · exact (number_of_mem_numberedRows hmem).2.trans_eq (Nat.zero_add _)
    · exact h.currentRow (fun a ha => .of_empty (hscript a ha)) hx (hfull b hb x.1 hrb)
    · have haround := hpace.walked.around hx ha hs
      rw [Nat.zero_add] at haround
      rcases haround with ⟨hlt, hstepped⟩ | ⟨heq, -⟩ | ⟨hlt, hstepped⟩
      · exact ⟨fun _ => hstepped.advances_eq, fun hgt => absurd hgt (Nat.lt_asymm hlt)⟩
      · exact ⟨fun hlt => absurd heq hlt.ne, fun hgt => absurd heq hgt.ne'⟩
      · exact ⟨fun hgt => absurd hgt (Nat.lt_asymm hlt), fun _ => hstepped.advances_eq⟩

/-- A merge without groups, order and limit of leaves with the same labels and full rows opens, and
concatenates them lazily, whatever a client reads in between. -/
theorem concatenation_is_lazy (config : Config) (hne : sources ≠ [])
    (hfresh : ∀ a ∈ sources, a.origin = a) (hscript : ∀ a ∈ sources, a.script = {})
    (hlabels : ∀ a ∈ sources, a.memory.labels = labels)
    (hfull : ∀ a ∈ sources, ∀ r ∈ a.memory.rows, r.length = labels.length)
    (hungrouped : shape.isGrouped = false) (horder : shape.orderBy = [])
    (hlimit : shape.limit = none) :
    ∃ c, Cursor.merge config shape sources = .ok c ∧
      ∀ calls, .close ∉ calls → .drop ∉ calls →
        (c.run calls).2.IsLazy sources (calls.count .advance) (c.emitted calls) := by
  obtain ⟨c, hmerge, hstart⟩ :=
    exists_concatenates config hne hfresh hscript hlabels hungrouped horder hlimit
  refine ⟨c, hmerge, fun calls hclose hdrop => ?_⟩
  obtain ⟨hrun, hlog⟩ := hstart.run hscript hclose hdrop
  rw [Nat.zero_add] at hrun hlog
  rw [List.take_zero, List.nil_append] at hlog
  exact hrun.isLazy hscript hfull hlog

/-- Of five sources three are empty. Past two rows the empty ones in front and in between are at
their ends, and the last one was not called yet. -/
theorem concatenation_is_lazy_of_empty_sources :
    let leaf (rows : List Row) : ScriptedSource := { memory := { labels := ["t"], rows } }
    let sources := [leaf [], leaf [[.text "a"]], leaf [], leaf [[.text "b"]], leaf []]
    ∃ c, Cursor.merge {} {} sources = .ok c ∧
      let c₂ := (c.run [.advance, .currentRow, .advance]).2
      c₂.currentRow.1 = .ok [.text "b"] ∧
        c₂.shards.map (·.source.advances) = [1, 2, 1, 1, 0] ∧ c₂.advance.1 = .ok false := by
  intro leaf sources
  have hfresh : ∀ a ∈ sources, a.origin = a := by
    simp only [sources, List.forall_mem_cons, List.not_mem_nil, false_implies, implies_true]
    exact ⟨rfl, rfl, rfl, rfl, rfl, trivial⟩
  have hscript : ∀ a ∈ sources, a.script = {} := by
    simp only [sources, List.forall_mem_cons, List.not_mem_nil, false_implies, implies_true]
    exact ⟨rfl, rfl, rfl, rfl, rfl, trivial⟩
  have hlabels : ∀ a ∈ sources, a.memory.labels = ["t"] := by decide
  have hungrouped : ({} : Shape).isGrouped = false := rfl
  obtain ⟨c, hmerge, hlazy⟩ := concatenation_is_lazy {} (List.cons_ne_nil _ _) hfresh hscript
    hlabels (by decide) hungrouped rfl rfl
  have htwo := hlazy [.advance, .currentRow, .advance] (by decide) (by decide)
  refine ⟨c, hmerge, ?_, ?_, htwo.advance⟩
  · obtain ⟨j, r, -, -, hr, hrow, -⟩ := htwo.row (htwo.onRow.mpr (by decide))
    cases hr
    exact hrow
  · cases hmerge
    rfl

end Confluence.Cursor
