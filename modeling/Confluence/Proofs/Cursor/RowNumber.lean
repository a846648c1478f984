import Confluence.Proofs.Cursor.Limited
import Confluence.Proofs.Cursor.Open
import Confluence.Proofs.Cursor.Phases
import Confluence.Proofs.Cursor.Pushdown
import Confluence.Proofs.Cursor.Reading
import Confluence.Proofs.Nested.Coercion

/-!
# The row number as a column

A limit whose dialect selects the row number shows it in the column that has its label, or in one
more column behind the others. The cursor with the limit is compared with the one without it, which
does nothing but advance. Whatever a client calls in between, the two are on the same row of the
result: one shows its number, and all other columns are the same.
-/

namespace Confluence

/-! ### Labels -/

namespace LabelIndex

/-- A label behind others is found if none of them is, and the others are found where they were. -/
lemma position?_ofLabels_append (x : LabelIndex) (label name : String) :
    (ofLabels (x.labels ++ [label])).position? name = (x.position? name).or
      (if foldLabel label = foldLabel name then some (x.size + 1) else none) := by
  simp only [position?, ofLabels, List.findIdx?_map, Function.comp_def, foldLabel_unquote,
    List.findIdx?_append]
  cases x.labels.findIdx? fun l => foldLabel l = foldLabel name with
  | some i => rfl
  | none =>
    by_cases hlabel : foldLabel label = foldLabel name
    · simp [hlabel, size]
    · simp [hlabel]

end LabelIndex

/-- A cursor that may still be on a row was so before, and its answer ended nothing. -/
lemma ClientAnswer.live_of_phase {before : Phase} {a : ClientAnswer}
    (h : phase before a = .beforeFirst ∨ phase before a = .onRow) :
    (before = .beforeFirst ∨ before = .onRow) ∧ a.isFinal = false ∧ a.cameToEnd = false := by
  cases hfinal : a.isFinal with
  | true => simp [phase_of_isFinal hfinal] at h
  | false =>
    cases hend : a.cameToEnd with
    | true =>
      have hrow : a.cameToRow = false := by
        unfold cameToEnd at hend
        split at hend
        · rfl
        · cases hend
      cases before <;> simp [phase, hfinal, hrow, hend] at h
    | false =>
      refine ⟨?_, rfl, rfl⟩
      cases before <;> simp [phase, hfinal] at h ⊢

namespace Cursor

variable {σ : Type} [RowSource σ] {E : σ → σ → Prop} {c d d' : Cursor σ} {n : Nat}

/-! ### Advancing only -/

/-- A cursor comes to its row `n`, counted from 1, by `n` calls to advance and no others. -/
def ComesTo (c : Cursor σ) (n : Nat) (d : Cursor σ) : Prop :=
  c.run (List.replicate n .advance) = (List.replicate n (.advanced (.ok true)), d)

lemma comesTo_succ_iff :
    c.ComesTo (n + 1) d ↔ ∃ c', c.advance = (.ok true, c') ∧ c'.ComesTo n d := by
  have hcall : ClientCall.advance ≠ .drop := nofun
  simp only [ComesTo, List.replicate_succ, run_cons hcall, answer, Prod.mk.injEq, List.cons.injEq,
    ClientAnswer.advanced.injEq]
  constructor
  · rintro ⟨⟨hadv, has⟩, hd⟩
    exact ⟨c.advance.2, Prod.ext hadv rfl, Prod.ext has hd⟩
  · rintro ⟨c', hadv, hrest⟩
    rw [hadv, hrest]
    exact ⟨⟨rfl, rfl⟩, rfl⟩

lemma ComesTo.next (h : c.ComesTo n d) (hadv : d.advance = (.ok true, d')) :
    c.ComesTo (n + 1) d' := by
  induction n generalizing c with
  | zero =>
    cases h
    exact comesTo_succ_iff.mpr ⟨d', hadv, rfl⟩
  | succ n ih =>
    obtain ⟨c', hc', hrest⟩ := comesTo_succ_iff.mp h
    exact comesTo_succ_iff.mpr ⟨c', hc', ih hrest⟩

/-- The first row that a cursor drains to, beside a cursor alike to it that is not read. -/
lemma exists_first_of_drain (hE : Blind E) {c₀ : Cursor σ} (h : c.Like E c₀) {row : Row}
    (hrow : c₀.drain.1.1[n]? = some row) (hd : c.ComesTo (n + 1) d) :
    ∃ (c' c₀' : Cursor σ) (first : Row), c'.ComesTo n d ∧ c'.Like E c₀' ∧
      c'.currentRow.1 = .ok first ∧ (first :: c₀'.drain.1.1)[n]? = some row := by
  obtain ⟨c', hc, hd⟩ := comesTo_succ_iff.mp hd
  obtain ⟨r, c₁, c₂, hx, hadv, hlike⟩ := (advance_alike hE.alike h).exists_eq
  cases hc.symm.trans hx
  have hread := (currentRow_alike (n := 0) hE.alike hlike).fst_eq
  have hstill := still_readFrom hE.still hlike 1 c₂.columnCount
  change isLost c₂.currentRow.1 = false → c'.Like E c₂.currentRow.2 at hstill
  rw [drain_def, hadv] at hrow
  rcases hcurrent : c₂.currentRow with ⟨e | first, c₀'⟩ <;> rw [hcurrent] at hread hstill <;>
    simp only [hcurrent] at hrow
  · cases hrow
  · exact ⟨c', c₀', first, hd, hstill rfl, hread, hrow⟩

/-- The rows that a cursor drains to are those that it comes to by advancing only. -/
lemma currentRow_of_drain (hE : Blind E) {c₀ : Cursor σ} (h : c.Like E c₀) {row : Row}
    (hrow : c₀.drain.1.1[n]? = some row) (hd : c.ComesTo (n + 1) d) : d.currentRow.1 = .ok row := by
  induction n generalizing c c₀ with
  | zero =>
    obtain ⟨c', c₀', first, hd', -, hfirst, hrow'⟩ := exists_first_of_drain hE h hrow hd
    cases hd'
    cases hrow'
    exact hfirst
  | succ n ih =>
    obtain ⟨c', c₀', first, hd', hlike, -, hrow'⟩ := exists_first_of_drain hE h hrow hd
    exact ih hlike hrow' hd'

/-! ### With and without the limit -/

/-- A cursor without a limit comes to row `n` with a merge in a given state, over shards that are
alike to given ones. -/
structure LeadsTo (E : σ → σ → Prop) (c : Cursor σ) (n : Nat) (d : Cursor σ) (m : Merger)
    (ss : List (Shard σ)) : Prop where
  comesTo : c.ComesTo n d
  phase_eq : d.phase = if n = 0 then .beforeFirst else .onRow
  unlimited : d.pagination = none
  labels_eq : d.labels = c.labels
  merger_eq : d.merger = m
  shards : List.Forall₂ (Shard.Like E) d.shards ss

variable {m m' : Merger} {ss ss' : List (Shard σ)}

lemma LeadsTo.draw (hE : Blind E) (h : LeadsTo E c n d m ss)
    (hdraw : Cursor.draw (m, ss) = (.ok true, m', ss')) : ∃ d', LeadsTo E c (n + 1) d' m' ss' := by
  obtain ⟨r, m₁, ss₁, ts₁, hx, hy, h₁⟩ :=
    (Merger.advance_alike hE.alike h.shards m).exists_eq_beside
  cases hdraw.symm.trans hy
  have hlive : d.phase = .beforeFirst ∨ d.phase = .onRow := by
    rw [h.phase_eq]
    split
    · exact Or.inl rfl
    · exact Or.inr rfl
  rw [← h.merger_eq] at hx
  have hadv := advance_eq_moved hlive h.unlimited hx
  exact ⟨_, h.comesTo.next hadv, rfl, h.unlimited, h.labels_eq, rfl, h₁⟩

lemma LeadsTo.seek (hE : Blind E) (h : LeadsTo E c n d m ss) {drop : Nat} {w w' : Window}
    (hseek : Window.seek Cursor.draw drop w (m, ss) = (.ok true, w', m', ss')) :
    ∃ d', LeadsTo E c (n + drop + 1) d' m' ss' := by
  induction drop generalizing n d w m ss with
  | zero =>
    rw [Window.seek] at hseek
    rcases hdraw : Cursor.draw (m, ss) with ⟨e | _ | _, m₁, ss₁⟩ <;> rw [hdraw] at hseek <;>
      cases hseek
    exact h.draw hE hdraw
  | succ drop ih =>
    rw [Window.seek] at hseek
    rcases hdraw : Cursor.draw (m, ss) with ⟨e | _ | _, m₁, ss₁⟩ <;> rw [hdraw] at hseek
    · cases hseek
    · cases hseek
    · obtain ⟨d₁, hd₁⟩ := h.draw hE hdraw
      rw [← Nat.add_assoc, Nat.add_right_comm n drop 1]
      exact ih hd₁ hseek

/-- An advance with a limit that came to a row sought it in the window. -/
lemma of_advance_eq_true {c₁ c₂ : Cursor σ} {p : Pagination} (hlimit : c₁.pagination = some p)
    (h : c₁.advance = (.ok true, c₂)) :
    ∃ w' m ss, Window.seek Cursor.draw (p.window.skip - p.window.position) p.window
        (c₁.merger, c₁.shards) = (.ok true, w', m, ss) ∧
      c₂ = { c₁ with merger := m, shards := ss, pagination := some { p with window := w' },
                     phase := .onRow, rowsEmitted := c₁.rowsEmitted + 1 } := by
  rw [advance] at h
  split at h
  · cases h
  · cases h
  all_goals
    rcases hdraw : c₁.drawInWindow with ⟨e | _ | _, c'⟩ <;> rw [hdraw] at h <;> cases h
    simp only [drawInWindow, hlimit] at hdraw
    rw [Window.advance] at hdraw
    split at hdraw
    · cases hdraw
    · rcases hseek : Window.seek Cursor.draw (p.window.skip - p.window.position) p.window
        (c₁.merger, c₁.shards) with ⟨r, w', m, ss⟩
      rw [hseek] at hdraw
      cases hdraw
      exact ⟨w', m, ss, rfl, rfl⟩

/-- A cursor with a limit on the same row as the cursor `d` that the one without the limit comes to,
or both in front of their first row. The window counts the rows in front of it, too. -/
structure Beside (E : σ → σ → Prop) (c start : Cursor σ) (w : Window) (d c₁ : Cursor σ) : Prop where
  labels_eq : c₁.labels = start.labels
  rowNumberColumn_eq : c₁.rowNumberColumn = start.rowNumberColumn
  limited : ∃ dialect, c₁.pagination = some ⟨dialect, w⟩
  position_eq : max w.skip w.position = w.skip + c₁.rowsEmitted
  inWindow : c₁.phase = .onRow → w.skip < w.position
  leadsTo : LeadsTo E c w.position d c₁.merger c₁.shards

/-- A cursor with a limit in a session. As long as it has a row or may come to one, it is beside one
that the cursor without the limit comes to. -/
structure Counts (E : σ → σ → Prop) (c start : Cursor σ) (skip k : Nat) (c₁ : Cursor σ) : Prop where
  tidy : c₁.Tidy k
  wellBound : c₁.phase ≠ .closed → c₁.merger.WellBound
  beside : c₁.phase = .beforeFirst ∨ c₁.phase = .onRow →
    ∃ w d, w.skip = skip ∧ Beside E c start w d c₁

variable {start c₁ : Cursor σ} {w : Window} {skip k : Nat}

/-- In front of the first row both cursors are the same but for the limit. -/
lemma Beside.refl (hE : Blind E) (hphase : c.phase = .beforeFirst)
    (hunlimited : c.pagination = none) {dialect : Dialect}
    (hlimit : start.pagination = some ⟨dialect, w⟩) (hposition : w.position = 0)
    (hstart : start.phase = .beforeFirst) (hemitted : start.rowsEmitted = 0)
    (hmerger : c.merger = start.merger) (hshards : c.shards = start.shards) :
    Beside E c start w c start where
  labels_eq := rfl
  rowNumberColumn_eq := rfl
  limited := ⟨dialect, hlimit⟩
  position_eq := by
    rw [hposition, hemitted]
    exact Nat.max_zero w.skip
  inWindow := by
    rw [hstart]
    rintro ⟨⟩
  leadsTo := by
    rw [hposition]
    refine ⟨rfl, hphase, hunlimited, rfl, hmerger, ?_⟩
    rw [hshards]
    exact hE.refl_shards start.shards

/-- An advance that comes to a row comes to the next one in the window. -/
lemma Beside.advance (hE : Blind E) (h : Beside E c start w d c₁) {c₂ : Cursor σ}
    (hadv : c₁.advance = (.ok true, c₂)) :
    ∃ w' d', w'.skip = w.skip ∧ Beside E c start w' d' c₂ := by
  obtain ⟨dialect, hlimit⟩ := h.limited
  obtain ⟨w', m, ss, hseek, rfl⟩ := of_advance_eq_true hlimit hadv
  obtain ⟨d', hd'⟩ := h.leadsTo.seek hE hseek
  have hposition := h.position_eq
  cases Window.of_seek_eq_true hseek
  refine ⟨_, d', ?_, h.labels_eq, h.rowNumberColumn_eq, ⟨dialect, rfl⟩, ?_, fun _ => ?_, hd'⟩
  · rfl
  · simp only
    omega
  · simp only
    omega

/-- A call that moves nothing leaves both cursors where they are. -/
lemma Beside.answer (hE : Blind E) (h : Beside E c start w d c₁) {call : ClientCall}
    (hadvance : call ≠ .advance) (hfinal : (c₁.answer call).1.isFinal = false)
    (hemitted : (c₁.answer call).2.rowsEmitted = c₁.rowsEmitted) :
    Beside E c start w d (c₁.answer call).2 := by
  -- labels and limits of the two cursors differ, so it is `c₁` over the shards of `d` that is alike
  -- to `c₁`
  have hlike : Like E { c₁ with shards := d.shards } c₁ :=
    ⟨h.leadsTo.shards, rfl, rfl, rfl, rfl, rfl⟩
  have hstill := still_answer hE.still hlike hadvance hfinal
  obtain ⟨hlabels, hcolumn, ⟨dialect, hlimit⟩, hposition, hwindow, hleads⟩ := h
  refine ⟨hstill.labels_eq.symm.trans hlabels, hstill.rowNumberColumn_eq.symm.trans hcolumn,
    ⟨dialect, hstill.pagination_eq.symm.trans hlimit⟩, ?_, ?_, ?_⟩
  · rw [hemitted]
    exact hposition
  · rw [← hstill.phase_eq]
    exact hwindow
  · exact ⟨hleads.comesTo, hleads.phase_eq, hleads.unlimited, hleads.labels_eq,
      hleads.merger_eq.trans hstill.merger, hstill.shards⟩

lemma Counts.answer (hE : Blind E) (h : Counts E c start skip k c₁) {call : ClientCall}
    (hdrop : call ≠ .drop) : Counts E c start skip k (c₁.answer call).2 := by
  have hstep := h.tidy.answer h.wellBound hdrop
  refine ⟨hstep.tidy, hstep.wellBound, fun hlive => ?_⟩
  rw [hstep.phase_eq] at hlive
  obtain ⟨hbefore, hfinal, hend⟩ := ClientAnswer.live_of_phase hlive
  obtain ⟨w, d, rfl, hd⟩ := h.beside hbefore
  by_cases hadvance : call = .advance
  · subst hadvance
    -- an advance that neither failed nor came to the end came to a row
    have htrue : c₁.advance.1 = .ok true := by
      rw [Cursor.answer] at hfinal hend
      rcases hr : c₁.advance.1 with e | _ | _
      · rw [hr] at hfinal
        cases hfinal
      · rw [hr] at hend
        cases hend
      · rfl
    exact hd.advance hE (Prod.ext htrue rfl)
  · have hrow : (c₁.answer call).1.cameToRow = false := by
      cases call with
      | advance => exact absurd rfl hadvance
      | _ => rfl
    have hemitted := hstep.rowsEmitted_eq
    rw [hrow] at hemitted
    exact ⟨w, d, rfl, hd.answer hE hadvance hfinal hemitted⟩

lemma Counts.run (hE : Blind E) (h : Counts E c start skip k c₁) {calls : List ClientCall}
    (hdrop : .drop ∉ calls) : Counts E c start skip k (c₁.run calls).2 := by
  induction calls generalizing c₁ with
  | nil => exact h
  | cons call calls ih =>
    rw [List.mem_cons, not_or] at hdrop
    rw [run_cons (Ne.symm hdrop.1)]
    exact ih (h.answer hE (Ne.symm hdrop.1)) hdrop.2

/-! ### What is shown -/

/-- Where a cursor with a limit shows the row number, compared with the cursor `c` without it: in
the column that has the label, or in one more behind the others. All labels are found where they
were. -/
structure PlacesRowNumber (c : Cursor σ) (label : String) (p : Nat) (c' : Cursor σ) : Prop where
  found : c'.columnIndex? label = some p
  replaces {i : Nat} : c.columnIndex? label = some i → p = i ∧ c'.columnCount = c.columnCount
  appends : c.columnIndex? label = none → p = c.columnCount + 1 ∧ c'.columnCount = p
  keeps {name : String} {i : Nat} : c.columnIndex? name = some i → c'.columnIndex? name = some i

/-- What a cursor with a limit shows on row `n` of the result, to which the cursor `c` without the
limit comes as `d`: its number in one column, and in all others what `d` shows there, which is the
cell that `c` drains to. -/
structure ShowsRowNumber (c : Cursor σ) (label : String) (p n : Nat) (d c₁ : Cursor σ) : Prop where
  comesTo : c.ComesTo n d
  onRow : d.phase = .onRow
  number {m : Signed 64} (t : SqlType) : m.val = n → (c₁.value p t).1 = (Cell.int64 m).coerce t ∧
    (c₁.valueByLabel label t).1 = (Cell.int64 m).coerce t
  others {i : Nat} (t : SqlType) : i ≠ p → (c₁.value i t).1 = (d.value i t).1
  othersByLabel {name : String} {i : Nat} (t : SqlType) : c.columnIndex? name = some i → i ≠ p →
    (c₁.valueByLabel name t).1 = (d.valueByLabel name t).1
  cells {row : Row} {i : Nat} {v : Cell} (t : SqlType) : c.drain.1.1[n - 1]? = some row →
    row[i]? = some v → i + 1 ≠ p → (c₁.value (i + 1) t).1 = v.coerce t

omit [RowSource σ] in
lemma exists_placesRowNumber {x : LabelIndex} {p : Pagination} (hp : p.exposesRowNumber = true)
    {label : String} {c c' : Cursor σ} (hc : c.labels = x)
    (hc' : c'.labels = (placeRowNumber x (some p) (some label)).1) :
    ∃ i, (placeRowNumber x (some p) (some label)).2 = some i ∧ PlacesRowNumber c label i c' := by
  subst hc
  rw [placeRowNumber, if_pos hp] at hc' ⊢
  cases hlabel : c.labels.position? label with
  | some i =>
    rw [hlabel] at hc'
    have hposition (name : String) : c'.columnIndex? name = c.columnIndex? name := by
      rw [columnIndex?, columnIndex?, hc']
    refine ⟨i, rfl, (hposition label).trans hlabel, fun hi => ?_, fun hnone => ?_, fun hname => ?_⟩
    · exact ⟨Option.some.inj (hlabel.symm.trans hi), congrArg LabelIndex.size hc'⟩
    · cases hlabel.symm.trans hnone
    · exact (hposition _).trans hname
  | none =>
    rw [hlabel] at hc'
    have hposition (name : String) : c'.columnIndex? name = (c.labels.position? name).or
        (if foldLabel label = foldLabel name then some (c.labels.size + 1) else none) := by
      rw [columnIndex?, hc']
      exact c.labels.position?_ofLabels_append label name
    refine ⟨c.labels.size + 1, rfl, ?_, fun hi => ?_, fun _ => ⟨rfl, ?_⟩, fun hname => ?_⟩
    · rw [hposition, hlabel, if_pos rfl]
      rfl
    · cases hlabel.symm.trans hi
    · simp [columnCount, hc', LabelIndex.ofLabels, LabelIndex.size]
    · rw [columnIndex?] at hname
      rw [hposition, hname]
      rfl

lemma fst_value_eq_readAt (hphase : c.phase = .onRow) {i : Nat}
    (h : c.rowNumberColumn ≠ some i ∨ c.pagination = none) (t : SqlType) :
    (c.value i t).1 = if i = 0 ∨ c.columnCount < i then .error (.columnOutOfBounds i)
      else (readAt c.merger i t c.shards).1 := by
  split
  next hi => simp only [value, hphase, if_pos hi]
  next hi => rw [fst_value_of_onRow hphase hi, readColumn_eq_readCurrent h, readCurrent_eq]

/-- Numbers that a 64-bit integer holds do not wrap around. -/
lemma rowNumberCell_eq {m : Signed 64} (h : m.val = n) : rowNumberCell n = .int64 m := by
  rw [rowNumberCell, ← h]
  exact congrArg Cell.int64 (Signed.ext (Signed.wrap_val (by decide) m.fits))

/-- A cursor with as many columns, or one more that shows the row number, has the same others. -/
lemma Beside.others (hE : Blind E) {p : Nat} (h : Beside E c start w d c₁)
    (hphase : c₁.phase = .onRow) (hd : d.phase = .onRow) (hcolumn : start.rowNumberColumn = some p)
    (hcount : start.columnCount = c.columnCount ∨ start.columnCount = p ∧ p = c.columnCount + 1)
    {i : Nat} (hi : i ≠ p) (t : SqlType) : (c₁.value i t).1 = (d.value i t).1 := by
  have hleads := h.leadsTo
  have hc₁ : c₁.columnCount = start.columnCount := congrArg LabelIndex.size h.labels_eq
  have hd' : d.columnCount = c.columnCount := congrArg LabelIndex.size hleads.labels_eq
  have hother : c₁.rowNumberColumn ≠ some i := by
    rw [h.rowNumberColumn_eq, hcolumn, Ne, Option.some.injEq]
    exact hi.symm
  have hbound : (i = 0 ∨ c₁.columnCount < i) ↔ (i = 0 ∨ d.columnCount < i) := by
    rw [hc₁, hd']
    omega
  rw [fst_value_eq_readAt hphase (.inl hother), fst_value_eq_readAt hd (.inr hleads.unlimited),
    hleads.merger_eq, (readAt_alike (n := 0) hE.alike hleads.shards c₁.merger i t).fst_eq]
  simp only [hbound]

/-- A cell of the current row is what its column is read as. -/
lemma fst_value_of_currentRow (hE : Blind E) (hphase : c.phase = .onRow)
    (hlimit : c.pagination = none) {row : Row} (h : c.currentRow.1 = .ok row) {i : Nat} {v : Cell}
    (hv : row[i]? = some v) : (c.value (i + 1) .any).1 = .ok v := by
  have hread : c.readFrom (0 + 1) c.columnCount = (.ok row, c.currentRow.2) := Prod.ext h rfl
  obtain ⟨hlen, hcells, -⟩ :=
    of_readFrom_eq_ok hE hphase hlimit (hE.refl_shards c.shards) hread
  obtain ⟨hi, rfl⟩ := List.getElem?_eq_some_iff.mp hv
  have hcell := hcells i hi
  rw [Nat.zero_add] at hcell
  rw [fst_value_eq_readAt hphase (.inr hlimit), if_neg (by omega), hcell]

/-- Beside the cursor without the limit, a cursor with it shows the row number, and the row. -/
lemma Beside.showsRowNumber (hE : Blind E) (hσ : CoercesOnce σ) {label : String} {p : Nat}
    (h : Beside E c start w d c₁) (hphase : c₁.phase = .onRow)
    (hplaces : PlacesRowNumber c label p start) (hcolumn : start.rowNumberColumn = some p) :
    ShowsRowNumber c label p (w.skip + c₁.rowsEmitted) d c₁ := by
  have hcount : start.columnCount = c.columnCount ∨
      start.columnCount = p ∧ p = c.columnCount + 1 := by
    cases hlabel : c.columnIndex? label with
    | some i => exact Or.inl (hplaces.replaces hlabel).2
    | none => exact Or.inr (hplaces.appends hlabel).symm
  obtain ⟨hlabels, hnumber, ⟨dialect, hlimit⟩, hposition, hwindow, hleads⟩ := id h
  have hskip := hwindow hphase
  have hn : w.skip + c₁.rowsEmitted = w.position := by omega
  have hd : d.phase = .onRow := by rw [hleads.phase_eq, if_neg (by omega)]
  have hothers {i : Nat} (hi : i ≠ p) (t : SqlType) : (c₁.value i t).1 = (d.value i t).1 :=
    h.others hE hphase hd hcolumn hcount hi t
  have hindex {name : String} {i : Nat} (hname : start.columnIndex? name = some i) (t : SqlType) :
      c₁.valueByLabel name t = c₁.value i t := by
    rw [columnIndex?, ← hlabels] at hname
    rw [valueByLabel, columnIndex?, hname]
  have hshown {m : Signed 64} (t : SqlType) (hm : m.val = w.position) :
      (c₁.value p t).1 = (Cell.int64 m).coerce t := by
    have hp := LabelIndex.position?_le hplaces.found
    have hbound : ¬ (p = 0 ∨ c₁.columnCount < p) := by
      rw [columnCount, hlabels]
      omega
    rw [fst_value_of_onRow hphase hbound, readColumn, hnumber, hcolumn, hlimit]
    simp only [if_true, Pagination.rowNumber, rowNumberCell_eq hm]
  rw [hn]
  refine ⟨hleads.comesTo, hd, ?_, fun t hi => hothers hi t, ?_, ?_⟩
  · intro m t hm
    rw [hindex hplaces.found]
    exact ⟨hshown t hm, hshown t hm⟩
  · intro name i t hname hi
    rw [hindex (hplaces.keeps hname), hothers hi]
    rw [valueByLabel, columnIndex?, hleads.labels_eq]
    rw [columnIndex?] at hname
    rw [hname]
  · intro row i v t hrow hv hi
    have hcomes : c.ComesTo (w.position - 1 + 1) d := by
      rw [Nat.sub_add_cancel (by omega)]
      exact hleads.comesTo
    have hread := currentRow_of_drain hE (hE.refl_cursor c) hrow hcomes
    have hcell := fst_value_of_currentRow hE hd hleads.unlimited hread hv
    rw [hothers hi]
    exact coercesOnce hσ t hcell

/-! ### Another run without the limit -/

lemma PlacesRowNumber.rechosen {label : String} {p : Nat}
    (h : PlacesRowNumber c label p c₁) (hcd : c.Rechosen E d) : PlacesRowNumber d label p c₁ := by
  have hindex (name : String) : d.columnIndex? name = c.columnIndex? name := by
    rw [columnIndex?, columnIndex?, hcd.labels_eq]
  have hcount : d.columnCount = c.columnCount := congrArg LabelIndex.size hcd.labels_eq.symm
  refine ⟨h.found, fun hi => ?_, fun hnone => ?_, fun hname => ?_⟩
  · rw [hcount]
    exact h.replaces ((hindex label).symm.trans hi)
  · rw [hcount]
    exact h.appends ((hindex label).symm.trans hnone)
  · exact h.keeps ((hindex _).symm.trans hname)

/-- The cursor of another run comes to the same row. -/
lemma ComesTo.exists_rechosen (hE : AnswerAlike fun _ => E) {c₀ : Cursor σ} (h : c.ComesTo n d)
    (hc : c.Rechosen E c₀) : ∃ d₀, c₀.ComesTo n d₀ ∧ d.Rechosen E d₀ := by
  induction n generalizing c c₀ with
  | zero =>
    cases h
    exact ⟨c₀, rfl, hc⟩
  | succ n ih =>
    obtain ⟨c', hadv, hrest⟩ := comesTo_succ_iff.mp h
    obtain ⟨r, c₁, c₂, hx, hy, h₁⟩ :=
      ((answerAlike_rechosen hE).advance (n := 0) hc).exists_eq
    cases hadv.symm.trans hx
    obtain ⟨d₀, hd₀, hlike⟩ := ih hrest h₁
    exact ⟨d₀, comesTo_succ_iff.mpr ⟨c₂, hy, hd₀⟩, hlike⟩

lemma ShowsRowNumber.exists_rechosen (hE : AnswerAlike fun _ => E) {label : String} {p : Nat}
    {c₀ : Cursor σ} (h : ShowsRowNumber c label p n d c₁) (hc : c.Rechosen E c₀) :
    ∃ d₀, ShowsRowNumber c₀ label p n d₀ c₁ := by
  obtain ⟨d₀, hcomes, hlike⟩ := h.comesTo.exists_rechosen hE hc
  have hread := hlike.readAlike hE
  refine ⟨d₀, hcomes, hlike.phase_eq ▸ h.onRow, h.number, fun t hi => ?_, fun t hname hi => ?_,
    fun t hrow hv hi => ?_⟩
  · exact (h.others t hi).trans (hread.value _ t)
  · rw [columnIndex?, ← hc.labels_eq] at hname
    exact (h.othersByLabel t hname hi).trans (hread.valueByLabel _ t)
  · rw [← hc.drain_eq hE] at hrow
    exact h.cells t hrow hv hi

/-! ### Opening -/

/-- The windows of the dialects that select row numbers begin behind the offset. -/
lemma exists_window_of_exposes {l : Limit} {dialect : Dialect}
    (hdialect : dialect = .rownum ∨ dialect = .top) :
    ∃ w, l.window? dialect = some w ∧ w.skip = RowBound.floor l.offset ∧ w.position = 0 := by
  rcases hdialect with rfl | rfl
  · exact ⟨_, rfl, rfl, rfl⟩
  · exact ⟨_, rfl, rfl, rfl⟩

/-- Under `rownum` and `top` a limit with a label for the row number shows it in one column: in the
one that has the label, or in one more behind the others. Whatever a client called before, on each
row that the cursor comes to the column is the position of the row in the result without the limit,
in which the offset leaves out the first rows, and every other column is that of the row. The result
without the limit may be that of a run that chooses otherwise among equal keys, where no group column
shows cells that are rounded against each other. -/
theorem row_number_is_position_in_result {k : Nat} {config : Config} {shape : Shape} {l : Limit}
    {label : String} {sources : List (Nested ScriptedSource k)}
    {c' : Cursor (Nested ScriptedSource k)} (hlimit : shape.limit = some l)
    (hdialect : l.dialect.getD config.defaultDialect = .rownum ∨
      l.dialect.getD config.defaultDialect = .top)
    (hlabel : l.rowNumberLabel = some label) (hmerge : merge config shape sources = .ok c') :
    ∃ c p, merge config { shape with limit := none } sources = .ok c ∧
      ∀ c₁, c.Rechosen (Nested.Rechosen k) c₁ → PlacesRowNumber c₁ label p c' ∧
        ∀ calls, .drop ∉ calls → (c'.run calls).2.phase = .onRow →
          ∃ d, ShowsRowNumber c₁ label p
            (RowBound.floor l.offset + (c'.run calls).2.rowsEmitted) d (c'.run calls).2 := by
  have hE := Nested.blind_like k
  obtain ⟨htidy, hwell, hphase, hemitted⟩ := tidy_of_merge hmerge
  obtain ⟨x, b, hx, hb, rfl⟩ := of_merge_eq_ok hmerge
  obtain ⟨w, hw, hskip, hposition⟩ := exists_window_of_exposes (l := l) hdialect
  let dialect := l.dialect.getD config.defaultDialect
  let c := assemble config { shape with limit := none } (numberShards 0 sources) x b
  let c' := assemble config shape (numberShards 0 sources) x b
  have hpagination : c'.pagination = some ⟨dialect, w⟩ := by
    show paginationOf config shape = _
    simp only [paginationOf, hlimit, Option.bind_some, Pagination.ofLimit?, hw, Option.map_some,
      dialect]
  have hplace : (c'.labels, c'.rowNumberColumn) =
      placeRowNumber c.labels (some ⟨dialect, w⟩) (some label) := by
    show placeRowNumber x (paginationOf config shape) (shape.limit.bind (·.rowNumberLabel)) = _
    rw [show paginationOf config shape = some ⟨dialect, w⟩ from hpagination, hlimit,
      Option.bind_some, hlabel]
    rfl
  have hexposes : (⟨dialect, w⟩ : Pagination).exposesRowNumber = true := by
    rcases hdialect with h | h <;> simp only [dialect, Pagination.exposesRowNumber, h] <;> rfl
  obtain ⟨p, hp, hplaces⟩ := exists_placesRowNumber hexposes rfl (congrArg Prod.fst hplace)
  have hunlimited : merge config { shape with limit := none } sources = .ok c := by
    have hb' : BoundShape.bind x { shape with limit := none } = .ok b := hb
    simp only [merge, plan, hx, hb', c]
  have hbeside : Beside (Nested.Like k) c c' w c c' :=
    .refl hE rfl rfl hpagination hposition hphase hemitted rfl rfl
  have hcounts : Counts (Nested.Like k) c c' w.skip sources.length c' :=
    ⟨htidy, fun _ => hwell, fun _ => ⟨w, c, rfl, hbeside⟩⟩
  refine ⟨c, p, hunlimited, fun c₁ hc₁ => ⟨hplaces.rechosen hc₁, fun calls hdrop honRow => ?_⟩⟩
  obtain ⟨w', d, hskip', hd⟩ := (hcounts.run hE hdrop).beside (Or.inr honRow)
  rw [← hskip, ← hskip']
  have hshows := hd.showsRowNumber hE (Nested.coercesOnce k) honRow hplaces
    ((congrArg Prod.snd hplace).trans hp)
  exact hshows.exists_rechosen (Nested.blind_rechosen k).alike hc₁

/-- The second of three rows under `top`, with its number in place of what the column has
otherwise. -/
theorem row_number_of_second_row :
    let l : Limit :=
      { offset := some { value := 1 }, dialect := some .top, rowNumberLabel := some "[rn]" }
    let shape : Shape := { orderBy := [⟨.index 1, .asc, .first⟩], limit := some l }
    let sources : List (Nested ScriptedSource 0) :=
      [{ memory := { labels := ["k", "RN"], rows := [[.text "a", .null], [.text "c", .null]] } },
        { memory := { labels := ["k", "RN"], rows := [[.text "b", .null]] } }]
    ∃ c c', merge {} { shape with limit := none } sources = .ok c ∧
      merge {} shape sources = .ok c' ∧ PlacesRowNumber c "[rn]" 2 c' ∧
        ∃ d, ShowsRowNumber c "[rn]" 2 2 d c'.advance.2 := by
  intro l shape sources
  obtain ⟨c', hc'⟩ : ∃ c', merge {} shape sources = .ok c' := ⟨_, rfl⟩
  obtain ⟨c, p, hc, hruns⟩ :=
    @row_number_is_position_in_result 0 {} shape l _ _ _ rfl (by decide) rfl hc'
  obtain ⟨hplaces, hshows⟩ := hruns c (.refl (Nested.blind_rechosen 0).refl c)
  obtain rfl : p = 2 := by
    cases hc
    exact (hplaces.replaces rfl).1
  have hrow : (c'.run [.advance]).2.phase = .onRow ∧ (c'.run [.advance]).2.rowsEmitted = 1 := by
    cases hc'
    exact ⟨rfl, rfl⟩
  obtain ⟨d, hd⟩ := hshows [.advance] (by decide) hrow.1
  rw [hrow.2] at hd
  exact ⟨c, c', hc, hc', hplaces, d, hd⟩

end Cursor

end Confluence
