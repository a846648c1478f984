import Confluence.Proofs.Cursor.Choice
import Confluence.Proofs.Cursor.Drain
import Confluence.Proofs.Shape.Bind
import Confluence.Proofs.Window
import Mathlib.Data.List.Permutation

/-!
# A limit is a window on the result

Reading a row makes no difference to the rows that come after it, so the rows that a merge draws
are the same whether or not they are read in between. A cursor with a limit therefore comes to the
rows that its window admits out of those that it would come to without the limit. It draws no row
behind its window, and none at all if the window is empty.
-/

namespace Confluence

namespace Cursor

variable {σ : Type} [RowSource σ]

/-! ### Rows that are drawn one after the other -/

/-- The row that a merge over some shards is on. -/
def IsOn (m : Merger) (ss : List (Shard σ)) (row : Row) : Prop :=
  ∀ i (h : i < row.length), (readAt m (i + 1) .any ss).1 = .ok row[i]

/-- The rows that a merge draws up to its end if none of them is read. -/
inductive Serves (width : Nat) : Merger → List (Shard σ) → List Row → Prop
  | ended {m ss m' ss'} : m.advance ss = (.ok false, m', ss') → Serves width m ss []
  | row {m ss m' ss' row rows} : m.advance ss = (.ok true, m', ss') → row.length = width →
      IsOn m' ss' row → Serves width m' ss' rows → Serves width m ss (row :: rows)

variable {E : σ → σ → Prop} {m m' : Merger} {ss ss' ts : List (Shard σ)} {row : Row}
  {rows : List Row}

/-- Shards that are alike serve the same rows. -/
lemma isOn_iff (hE : AnswerAlike fun _ => E) (h : List.Forall₂ (Shard.Like E) ss ts) :
    IsOn m ss row ↔ IsOn m ts row := by
  have hread (i : Nat) : (readAt m (i + 1) .any ss).1 = (readAt m (i + 1) .any ts).1 :=
    (readAt_alike (n := 0) hE h m (i + 1) .any).fst_eq
  simp only [IsOn, hread]

lemma Serves.alike (hE : AnswerAlike fun _ => E) {width : Nat} (h : Serves width m ss rows)
    (hss : List.Forall₂ (Shard.Like E) ss ts) : Serves width m ts rows := by
  induction h generalizing ts with
  | @ended m ss m' ss' hadv =>
    obtain ⟨r, m₁, ss₁, ts₁, hx, hy, -⟩ := (Merger.advance_alike hE hss m).exists_eq_beside
    cases hadv.symm.trans hx
    exact .ended hy
  | @row m ss m' ss' row rows hadv hlen hrow _ ih =>
    obtain ⟨r, m₁, ss₁, ts₁, hx, hy, h₁⟩ := (Merger.advance_alike hE hss m).exists_eq_beside
    cases hadv.symm.trans hx
    exact .row hy hlen ((isOn_iff hE h₁).mp hrow) (ih h₁)

lemma Serves.of_alike (hE : AnswerAlike fun _ => E) {width : Nat} (h : Serves width m ts rows)
    (hss : List.Forall₂ (Shard.Like E) ss ts) : Serves width m ss rows :=
  h.alike hE.flip (hss.flip.imp fun _ _ hs => hs.flip)

/-! ### Without a limit -/

variable {c c' : Cursor σ} {n : Nat}

lemma of_value_eq_ok (hphase : c.phase = .onRow) (hlimit : c.pagination = none) {i : Nat}
    {t : SqlType} {v : Cell} (h : c.value i t = (.ok v, c')) :
    ∃ ss, readAt c.merger i t c.shards = (.ok v, ss) ∧
      c' = { c with shards := ss, lastNull := v.isNull } := by
  rw [value, hphase] at h
  simp only [readColumn_eq_readCurrent (.inr hlimit), readCurrent_eq] at h
  split at h
  · cases h
  · rcases hread : readAt c.merger i t c.shards with ⟨e | v', ss⟩
    · simp only [hread] at h
      split at h <;> cases h
    · simp only [hread] at h
      cases h
      exact ⟨ss, rfl, rfl⟩

/-- A row that was read cell by cell is the row that the merge was on before, and the shards are
alike to what they were. -/
lemma of_readFrom_eq_ok (hE : Blind E) (hphase : c.phase = .onRow) (hlimit : c.pagination = none)
    (hss : List.Forall₂ (Shard.Like E) ss c.shards) {i k : Nat}
    (h : c.readFrom (i + 1) k = (.ok row, c')) :
    row.length = k ∧ (∀ j (hj : j < row.length),
        (readAt c.merger (i + j + 1) .any ss).1 = .ok row[j]) ∧
      ∃ ss' b, c' = { c with shards := ss', lastNull := b } ∧
        List.Forall₂ (Shard.Like E) ss ss' := by
  induction k generalizing c i row with
  | zero =>
    cases h
    exact ⟨rfl, fun j hj => absurd hj (Nat.not_lt_zero j), _, _, rfl, hss⟩
  | succ k ih =>
    rw [readFrom] at h
    split at h
    · cases h
    next v c₁ hv =>
      obtain ⟨ss₁, hread, rfl⟩ := of_value_eq_ok hphase hlimit hv
      have hss₁ := still_readAt hE.still hss (by rw [hread]; rfl)
      rw [hread] at hss₁
      split at h
      · cases h
      next vs c₂ hvs =>
        cases h
        obtain ⟨hlen, hcells, ss₂, b, rfl, hss₂⟩ :=
          ih (c := { c with shards := ss₁, lastNull := v.isNull }) hphase hlimit hss₁ hvs
        refine ⟨congrArg Nat.succ hlen, fun j hj => ?_, ss₂, b, rfl, hss₂⟩
        cases j with
        | zero =>
          have hfirst := (readAt_alike (n := 0) hE.alike hss c.merger (i + 1) .any).fst_eq
          rw [hread] at hfirst
          exact hfirst
        | succ j =>
          have hrest := hcells j (Nat.lt_of_succ_lt_succ hj)
          rwa [Nat.add_right_comm i 1 j] at hrest

/-- The rows that an unlimited cursor drains to are those that its merge serves. -/
lemma serves_of_drain (hE : Blind E) (h : c.Over n m ss) (hdrain : c.drain.1 = (rows, none)) :
    Serves n m ss rows := by
  induction rows generalizing c m ss with
  | nil =>
    rcases hadv : m.advance ss with ⟨r, m₁, ss₁⟩
    obtain ⟨c₁, hc₁, hover⟩ := advance_of_over h hadv
    rw [drain_def, hc₁] at hdrain
    rcases r with e | _ | _
    · cases hdrain
    · exact .ended hadv
    · simp only at hdrain
      split at hdrain <;> cases hdrain
  | cons row rows ih =>
    rcases hadv : m.advance ss with ⟨r, m₁, ss₁⟩
    obtain ⟨c₁, hc₁, hover⟩ := advance_of_over h hadv
    rw [drain_def, hc₁] at hdrain
    rcases r with e | _ | _
    · cases hdrain
    · cases hdrain
    · obtain ⟨hphase, hover⟩ := hover rfl
      simp only at hdrain
      split at hdrain
      · cases hdrain
      next row' c₂ hread =>
        simp only [Prod.mk.injEq, List.cons.injEq] at hdrain
        obtain ⟨⟨rfl, hrows⟩, hnone⟩ := hdrain
        obtain ⟨rfl, rfl, hlive, hlimit, rfl⟩ := hover
        obtain ⟨hlen, hcells, ss₂, b, rfl, hss₂⟩ := of_readFrom_eq_ok hE hphase hlimit
          (hE.refl_shards c₁.shards) hread
        have hserves := ih (c := { c₁ with shards := ss₂, lastNull := b })
          ⟨rfl, rfl, Or.inr hphase, hlimit, rfl⟩ (Prod.ext hrows hnone)
        refine .row hadv hlen (fun i hi => ?_) (hserves.of_alike hE.alike hss₂)
        have hcell := hcells i hi
        rwa [Nat.zero_add] at hcell

/-! ### Row numbers -/

/-- A row with its number in a column, if it is to be shown in one. -/
def numbered (column : Option Nat) (n : Nat) (row : Row) : Row :=
  match column with
  | none => row
  | some k => row.take (k - 1) ++ rowNumberCell n :: row.drop k

/-- Rows of a width get a number of columns: as many as before if one of them shows the row number,
and otherwise one more. -/
def Widens (column : Option Nat) (width columnCount : Nat) : Prop :=
  match column with
  | none => columnCount = width
  | some k => 1 ≤ k ∧ k ≤ width + 1 ∧ columnCount = max width k

lemma length_numbered {column : Option Nat} {columnCount : Nat}
    (h : Widens column row.length columnCount) (n : Nat) :
    (numbered column n row).length = columnCount := by
  cases column with
  | none => exact h.symm
  | some k =>
    obtain ⟨h₁, h₂, rfl⟩ := h
    simp only [numbered, List.length_append, List.length_take, List.length_cons,
      List.length_drop]
    omega

lemma getElem?_numbered {column : Option Nat} {columnCount : Nat}
    (h : Widens column row.length columnCount) (n i : Nat) :
    (numbered column n row)[i]? = if column = some (i + 1) then some (rowNumberCell n) else row[i]? := by
  cases column with
  | none => rfl
  | some k =>
    obtain ⟨h₁, h₂, -⟩ := h
    have htake : (row.take (k - 1)).length = k - 1 := List.length_take_of_le (by omega)
    simp only [numbered, Option.some.injEq]
    rcases Nat.lt_trichotomy i (k - 1) with hi | hi | hi
    · rw [if_neg (by omega), List.getElem?_append_left (by omega), List.getElem?_take_of_lt hi]
    · rw [if_pos (by omega), List.getElem?_append_right (by omega), htake, hi, Nat.sub_self,
        List.getElem?_cons_zero]
    · obtain ⟨j, rfl⟩ : ∃ j, i = k + j := ⟨i - k, by omega⟩
      have hj : k + j - (k - 1) = j + 1 := by omega
      rw [if_neg (by omega), List.getElem?_append_right (by omega), htake, hj,
        List.getElem?_cons_succ, List.getElem?_drop]

/-! ### With a limit -/

/-- A cursor with a limit that was neither closed nor drained. -/
structure Within (c : Cursor σ) (w : Window) (width : Nat) : Prop where
  live : c.phase = .beforeFirst ∨ c.phase = .onRow
  limited : ∃ d, c.pagination = some ⟨d, w⟩
  widens : Widens c.rowNumberColumn width c.columnCount

variable {w : Window}

/-- On a row, each column is read as the row and its number have it. -/
lemma value_of_isOn (hE : Blind E) (h : c.Within w row.length) (hphase : c.phase = .onRow)
    (hss : List.Forall₂ (Shard.Like E) ss c.shards) (hrow : IsOn c.merger ss row) {i : Nat}
    {v : Cell} (hv : (numbered c.rowNumberColumn w.position row)[i]? = some v) :
    ∃ ss' b, c.value (i + 1) .any = (.ok v, { c with shards := ss', lastNull := b }) ∧
      List.Forall₂ (Shard.Like E) ss ss' := by
  obtain ⟨-, ⟨d, hlimit⟩, hwidens⟩ := h
  have hbound : ¬ (i + 1 = 0 ∨ c.columnCount < i + 1) := by
    have hi := (List.getElem?_eq_some_iff.mp hv).1
    rw [length_numbered hwidens] at hi
    omega
  suffices hread : ∃ ss', c.readColumn (i + 1) .any = (.ok v, { c with shards := ss' }) ∧
      List.Forall₂ (Shard.Like E) ss ss' by
    obtain ⟨ss', hread, hss'⟩ := hread
    refine ⟨ss', v.isNull, ?_, hss'⟩
    simp only [value, hphase, if_neg hbound, hread]
  rw [getElem?_numbered hwidens] at hv
  by_cases hcolumn : c.rowNumberColumn = some (i + 1)
  · rw [if_pos hcolumn, Option.some.injEq] at hv
    subst hv
    have hread : c.readColumn (i + 1) .any = (.ok (rowNumberCell w.position), c) := by
      simp only [readColumn, hcolumn, hlimit, if_true, Cell.coerce_any, Pagination.rowNumber]
    exact ⟨c.shards, hread, hss⟩
  · rw [if_neg hcolumn] at hv
    obtain ⟨hi, rfl⟩ := List.getElem?_eq_some_iff.mp hv
    have hread := readAt_alike (n := 0) hE.alike hss c.merger (i + 1) .any
    have hcell := hread.fst_eq.symm.trans (hrow i hi)
    rw [readColumn_eq_readCurrent (.inl hcolumn), readCurrent_eq, hcell]
    exact ⟨_, rfl, still_readAt hE.still hss (by rw [hcell]; rfl)⟩

lemma readFrom_of_isOn (hE : Blind E) (h : c.Within w row.length) (hphase : c.phase = .onRow)
    (hss : List.Forall₂ (Shard.Like E) ss c.shards) (hrow : IsOn c.merger ss row) {i k : Nat}
    (hk : i + k = c.columnCount) :
    ∃ ss' b, c.readFrom (i + 1) k = (.ok ((numbered c.rowNumberColumn w.position row).drop i),
      { c with shards := ss', lastNull := b }) ∧ List.Forall₂ (Shard.Like E) ss ss' := by
  have hlen := length_numbered h.widens w.position
  induction k generalizing c i with
  | zero =>
    refine ⟨c.shards, c.lastNull, ?_, hss⟩
    rw [readFrom, List.drop_of_length_le (by omega)]
  | succ k ih =>
    have hi : i < (numbered c.rowNumberColumn w.position row).length := by omega
    obtain ⟨ss₁, b, hv, hss₁⟩ := value_of_isOn hE h hphase hss hrow (List.getElem?_eq_getElem hi)
    have hk' : i + 1 + k = c.columnCount := by rw [← hk, Nat.add_right_comm, Nat.add_assoc]
    obtain ⟨ss₂, b', hrest, hss₂⟩ := ih (c := { c with shards := ss₁, lastNull := b }) (i := i + 1)
      ⟨h.live, h.limited, h.widens⟩ hphase hss₁ hrow hk' hlen
    refine ⟨ss₂, b', ?_, hss₂⟩
    rw [readFrom, hv]
    simp only [hrest]
    rw [List.getElem_cons_drop]

end Cursor

/-! ### Drawing through a window -/

namespace Window

variable {τ : Type} {next : τ → Except Failure Bool × τ}

lemma seek_of_noting {drop : Nat} {w w' : Window} {log log' : List (Except Failure Bool)}
    {t t' : τ} {r : Except Failure Bool}
    (h : seek (noting next) drop w (log, t) = (r, w', log', t')) :
    seek next drop w t = (r, w', t') := by
  induction drop generalizing w log t with
  | zero =>
    rw [seek, noting] at h
    rw [seek]
    rcases hnext : next t with ⟨e | _ | _, t₁⟩
    all_goals
      simp only [hnext] at h ⊢
      cases h
      rfl
  | succ drop ih =>
    rw [seek, noting] at h
    rw [seek]
    rcases hnext : next t with ⟨e | _ | _, t₁⟩
    · simp only [hnext] at h ⊢
      cases h
      rfl
    · simp only [hnext] at h ⊢
      cases h
      rfl
    · simp only [hnext] at h ⊢
      exact ih h

/-- Noting the answers of a merge does not change them. -/
lemma advance_of_noting {w w' : Window} {log log' : List (Except Failure Bool)} {t t' : τ}
    {r : Except Failure Bool} (h : w.advance (noting next) (log, t) = (r, w', log', t')) :
    w.advance next t = (r, w', t') := by
  rw [advance] at h ⊢
  split at h
  next hpast =>
    cases h
    exact if_pos hpast
  next hpast =>
    rw [if_neg hpast]
    exact seek_of_noting h

end Window

namespace Cursor

variable {σ : Type} [RowSource σ] {m : Merger} {ss : List (Shard σ)} {rows : List Row} {n : Nat}

/-- Seeking drops rows, and comes to the first one that is not dropped, or to the end. -/
lemma seek_of_serves (h : Serves n m ss rows) (drop : Nat) (w : Window)
    (log : List (Except Failure Bool)) :
    (∀ hlt : drop < rows.length, ∃ m' ss',
      Window.seek (Window.noting draw) drop w (log, m, ss) =
          (.ok true, { w with position := w.position + drop + 1 },
            log ++ List.replicate (drop + 1) (.ok true), m', ss') ∧
        rows[drop].length = n ∧ IsOn m' ss' rows[drop] ∧
          Serves n m' ss' (rows.drop (drop + 1))) ∧
      (rows.length ≤ drop → ∃ t, Window.seek (Window.noting draw) drop w (log, m, ss) =
        (.ok false, { w with position := w.position + rows.length },
          log ++ (List.replicate rows.length (.ok true) ++ [.ok false]), t)) := by
  induction h generalizing drop w log with
  | @ended m ss m' ss' hadv =>
    refine ⟨fun hlt => absurd hlt (Nat.not_lt_zero drop), fun _ => ⟨(m', ss'), ?_⟩⟩
    have hdraw : draw (m, ss) = (.ok false, m', ss') := hadv
    cases drop <;> simp only [Window.seek, Window.noting, hdraw] <;> rfl
  | @row m ss m' ss' row rows hadv hlen hrow hrest ih =>
    have hdraw : draw (m, ss) = (.ok true, m', ss') := hadv
    cases drop with
    | zero =>
      constructor
      · intro hlt
        refine ⟨m', ss', ?_, hlen, hrow, hrest⟩
        simp only [Window.seek, Window.noting, hdraw]
        rfl
      · intro hle
        cases hle
    | succ drop =>
      obtain ⟨hcome, hend⟩ := ih drop { w with position := w.position + 1 } (log ++ [.ok true])
      constructor
      · intro hlt
        obtain ⟨m₁, ss₁, hseek, hfacts⟩ := hcome (Nat.lt_of_succ_lt_succ hlt)
        refine ⟨m₁, ss₁, ?_, hfacts⟩
        rw [Window.seek, Window.noting]
        simp only [hdraw, hseek]
        rw [List.append_assoc, Nat.add_assoc w.position, Nat.add_comm 1 drop]
        rfl
      · intro hle
        obtain ⟨t, hseek⟩ := hend (Nat.le_of_succ_le_succ hle)
        refine ⟨t, ?_⟩
        rw [Window.seek, Window.noting]
        simp only [hdraw, hseek]
        rw [List.append_assoc, Nat.add_assoc w.position, Nat.add_comm 1 rows.length]
        rfl

variable {c : Cursor σ} {w w' : Window}

lemma advance_of_noting (h : c.Within w n) {r : Bool} {log : List (Except Failure Bool)}
    {m' : Merger} {ss' : List (Shard σ)}
    (hnoting : w.advance (Window.noting draw) ([], c.merger, c.shards) =
      (.ok r, w', log, m', ss')) :
    c.asksOnAdvance = log ∧ ∃ c', c.advance = (.ok r, c') ∧ (r = true → c'.phase = .onRow ∧
      c'.Within w' n ∧ c'.rowNumberColumn = c.rowNumberColumn ∧ c'.merger = m' ∧
        c'.shards = ss') := by
  obtain ⟨hlive, ⟨d, hlimit⟩, hwidens⟩ := h
  have hdraw : c.drawInWindow =
      (.ok r, { c with merger := m', shards := ss', pagination := some ⟨d, w'⟩ }) := by
    simp only [drawInWindow, hlimit, Window.advance_of_noting hnoting]
  rcases hlive with hphase | hphase
  all_goals
    simp only [asksOnAdvance, advance, hphase, hlimit, hnoting, hdraw, true_and]
    cases r with
    | false =>
      refine ⟨_, rfl, ?_⟩
      rintro ⟨⟩
    | true => exact ⟨_, rfl, fun _ => ⟨rfl, ⟨Or.inr rfl, ⟨d, rfl⟩, hwidens⟩, rfl, rfl, rfl⟩⟩

/-- A cursor with a limit drains to the rows that its window admits, with their numbers, and asks
its merge for no row behind them. -/
theorem drain_of_serves {E : σ → σ → Prop} (hE : Blind E) (h : c.Within w n)
    (hserves : Serves n c.merger c.shards rows) :
    c.drain.1 = ((w.admitted rows).map fun x => numbered c.rowNumberColumn x.2 x.1, none) ∧
      c.asks = w.asks rows.length := by
  induction hlen : rows.length using Nat.strongRecOn generalizing c w rows with
  | ind total ih =>
    subst hlen
    rw [drain_def, asks_def]
    cases hpast : w.isPast with
    | true =>
      have hnoting : w.advance (Window.noting draw) ([], c.merger, c.shards) =
          (.ok false, w, [], c.merger, c.shards) := by rw [Window.advance, if_pos hpast]
      obtain ⟨hasks, c₁, hc₁, -⟩ := advance_of_noting h hnoting
      rw [hc₁, hasks, Window.admitted_eq_nil_of_isPast hpast, Window.asks_of_isPast hpast]
      exact ⟨rfl, rfl⟩
    | false =>
      have hseek := seek_of_serves hserves (w.skip - w.position) w []
      have hadvance : w.advance (Window.noting draw) ([], c.merger, c.shards) =
          Window.seek (Window.noting draw) (w.skip - w.position) w ([], c.merger, c.shards) := by
        rw [Window.advance, hpast]
        rfl
      rw [← hadvance] at hseek
      by_cases hlt : w.skip - w.position < rows.length
      · obtain ⟨m₁, ss₁, hnoting, hwidth, hrow, hrest⟩ := hseek.1 hlt
        obtain ⟨hasks, c₁, hc₁, hfacts⟩ := advance_of_noting h hnoting
        obtain ⟨hphase, hwithin, hcolumn, rfl, rfl⟩ := hfacts rfl
        subst hwidth
        have hread := readFrom_of_isOn hE hwithin hphase (hE.refl_shards c₁.shards) hrow
          (Nat.zero_add c₁.columnCount)
        obtain ⟨ss₂, b, hread, hss₂⟩ := hread
        have hcurrent : c₁.currentRow = _ := hread
        have hrest' := ih (rows.drop (w.skip - w.position + 1)).length (by simp; omega)
          (c := { c₁ with shards := ss₂, lastNull := b })
          ⟨hwithin.live, hwithin.limited, hwithin.widens⟩ (hrest.alike hE.alike hss₂) rfl
        rw [hc₁, hasks]
        simp only [hcurrent, hrest', List.drop_zero]
        rw [Window.admitted_eq_cons hpast hlt, Window.asks_of_lt hpast hlt, List.length_drop,
          List.map_cons, hcolumn]
        exact ⟨rfl, rfl⟩
      · obtain ⟨⟨m₁, ss₁⟩, hnoting⟩ := hseek.2 (Nat.not_lt.mp hlt)
        obtain ⟨hasks, c₁, hc₁, -⟩ := advance_of_noting h hnoting
        rw [hc₁, hasks, Window.admitted_eq_nil_of_le (Nat.not_lt.mp hlt),
          Window.asks_of_le hpast (Nat.not_lt.mp hlt)]
        exact ⟨rfl, List.append_nil _⟩

/-! ### Opening -/

lemma widens_placeRowNumber (x : LabelIndex) (p : Option Pagination) (label : Option String) :
    Widens (placeRowNumber x p label).2 x.size (placeRowNumber x p label).1.size := by
  simp only [placeRowNumber]
  split
  next label p =>
    split
    · split
      next i hi =>
        obtain ⟨h₁, h₂⟩ := LabelIndex.position?_le hi
        exact ⟨h₁, Nat.le_succ_of_le h₂, (Nat.max_eq_left h₂).symm⟩
      · refine ⟨Nat.le_add_left 1 x.size, Nat.le_refl _, ?_⟩
        rw [Nat.max_eq_right (Nat.le_succ x.size)]
        simp [LabelIndex.size, LabelIndex.ofLabels]
    · rfl
  · rfl

lemma placeRowNumber_eq_none (x : LabelIndex) {p : Pagination} {label : Option String}
    (h : p.exposesRowNumber = false ∨ label = none) :
    (placeRowNumber x (some p) label).2 = none := by
  cases label with
  | none => rfl
  | some label =>
    rcases h with h | h
    · rw [placeRowNumber, h]
      rfl
    · cases h

/-- A limit is a window on the result. If a merge without its limit drains to some rows, then with
its limit, under a known dialect, it drains to those of them whose numbers the limit admits, in
their order and with their numbers where the statement selects them. The merge is asked for no row
behind the last one that is admitted. The run with the limit may choose otherwise among equal keys
where no group column shows cells that are rounded against each other. -/
theorem limited_drain_eq_window {k : Nat} {config : Config} {shape : Shape} {l : Limit}
    {sources : List (Nested ScriptedSource k)} {c : Cursor (Nested ScriptedSource k)}
    (hknown : l.dialect.getD config.defaultDialect ≠ .unknown)
    (hmerge : Cursor.merge config { shape with limit := none } sources = .ok c)
    (hdrain : c.drain.1 = (rows, none)) (hlen : rows.length < twoTo 64) :
    let d := l.dialect.getD config.defaultDialect
    ∃ c', Cursor.merge config { shape with limit := some l } sources = .ok c' ∧
      ∀ c₁, c'.Rechosen (Nested.Rechosen k) c₁ →
        c₁.drain.1 = (((rows.zipIdx 1).filter fun x => l.Admits d x.2).map fun x =>
          numbered c₁.rowNumberColumn x.2 x.1, none) ∧
        (d = .native ∨ l.rowNumberLabel = none → c₁.rowNumberColumn = none) ∧
        c₁.asks = l.asks d rows.length := by
  intro d
  have hE := Nested.blind_like k
  obtain ⟨x, b, hx, hb, rfl⟩ := of_merge_eq_ok hmerge
  have hover : (assemble config { shape with limit := none } (numberShards 0 sources) x b).Over
      x.size (.start config b (Strategy.choose config b)) (numberShards 0 sources) :=
    ⟨rfl, rfl, Or.inl rfl, rfl, rfl⟩
  have hserves := serves_of_drain hE hover hdrain
  obtain ⟨w, hw, hceiling, hposition⟩ := exists_window? l hknown
  have hpagination : paginationOf config { shape with limit := some l } = some ⟨d, w⟩ := by
    simp only [paginationOf, Option.bind_some, Pagination.ofLimit?, hw, Option.map_some, d]
  let c' := assemble config { shape with limit := some l } (numberShards 0 sources) x b
  have hwithin : c'.Within w x.size :=
    ⟨Or.inl rfl, ⟨d, hpagination⟩, widens_placeRowNumber x _ _⟩
  obtain ⟨hdrain', hasks⟩ := drain_of_serves hE hwithin hserves
  refine ⟨c', ?_, fun c₁ hc₁ => ?_⟩
  · have hb' : BoundShape.bind x { shape with limit := some l } = .ok b := hb
    simp only [merge, plan, hx, hb']
    rfl
  · have hrun := (Nested.blind_rechosen k).alike
    rw [← hc₁.drain_eq hrun, ← hc₁.asks_eq hrun, ← hc₁.rowNumberColumn_eq]
    refine ⟨?_, ?_, ?_⟩
    · rw [hdrain', admitted_of_window? hw hposition hlen]
    · intro h
      have hcolumn : c'.rowNumberColumn =
          (placeRowNumber x (some ⟨d, w⟩) l.rowNumberLabel).2 := by
        rw [← hpagination]
        rfl
      rw [hcolumn]
      apply placeRowNumber_eq_none
      rcases h with hnative | hlabel
      · left
        simp [Pagination.exposesRowNumber, hnative]
      · exact Or.inr hlabel
    · rw [hasks, asks_of_window? hw hceiling hposition]

/-- The second of three rows under `top`, with its number in a column of its own: the merge is
asked for two rows. -/
theorem limited_drain_of_top_two :
    let l : Limit :=
      { offset := some { value := 2, inclusive := true }, rowCount := some { value := 2 },
        dialect := some .top, rowNumberLabel := some "rn" }
    let shape : Shape := { orderBy := [⟨.index 1, .asc, .first⟩], limit := some l }
    let sources : List (Nested ScriptedSource 0) :=
      [{ memory := { labels := ["k"], rows := [[.text "a"], [.text "c"]] } },
        { memory := { labels := ["k"], rows := [[.text "b"]] } }]
    ∃ c, Cursor.merge {} shape sources = .ok c ∧
      c.drain.1.1 = [numbered c.rowNumberColumn 2 [.text "b"]] ∧ c.asks = [.ok true, .ok true] := by
  intro l shape sources
  have hrun : (Cursor.merge {} { shape with limit := none } sources).map (fun c => c.drain.1) =
      .ok ([[.text "a"], [.text "b"], [.text "c"]], none) := by
    simp only [shape, sources]
    cbv
  cases hc : Cursor.merge {} { shape with limit := none } sources with
  | error e =>
    rw [hc] at hrun
    cases hrun
  | ok c =>
    rw [hc, Except.map, Except.ok.injEq] at hrun
    obtain ⟨c', hc', hruns⟩ :=
      @limited_drain_eq_window _ 0 {} shape l _ _ (by decide) hc hrun (by decide)
    obtain ⟨hdrain, -, hasks⟩ := hruns c' (.refl (Nested.blind_rechosen 0).refl c')
    refine ⟨c', hc', ?_, ?_⟩
    · rw [hdrain]
      rfl
    · rw [hasks]
      rfl

end Cursor

end Confluence
