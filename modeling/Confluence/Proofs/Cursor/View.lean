import Confluence.Proofs.Cursor.Drain

/-!
# Views of cursors

A cursor without a limit, over a merge that delivers its rows, shows these rows as a source: it
moves through them one by one, reading leaves it where it is, and behind the last one it stays at
their end. So what is known of merges over sources with a view holds of merges over cursors.
-/

namespace Confluence

variable {σ : Type} [RowSource σ]

namespace Cursor

/-- What a cursor shows: on no row it is in front of a merge that delivers the rows to come, or at
their end; on a row its merge sits on that row. -/
def Displays (V : SourceView σ) (c : Cursor σ) : Option Row → List Row → Prop
  | none, rest =>
    (c.phase = .beforeFirst ∧ c.merger.Delivers V none rest c.shards) ∨
      (c.phase = .exhausted ∧ rest = [])
  | some r, rest => c.phase = .onRow ∧ c.merger.Sits V r (c.merger.Delivers V none rest) c.shards

variable {V : SourceView σ} {c : Cursor σ} {current : Option Row} {r : Row} {rest : List Row}

/-- In front of its end a cursor stands before what its merge still delivers. -/
lemma Displays.delivers (h : c.Displays V current rest) (hphase : c.phase ≠ .exhausted) :
    (c.phase = .beforeFirst ∨ c.phase = .onRow) ∧ c.merger.Delivers V none rest c.shards := by
  cases current with
  | none =>
    rcases h with ⟨hp, hd⟩ | ⟨hp, -⟩
    · exact ⟨Or.inl hp, hd⟩
    · exact absurd hp hphase
  | some r => exact ⟨Or.inr h.1, h.2.holds⟩

/-- The cursor behind a call to advance that its merge answers. -/
def moved (c : Cursor σ) (onRow : Bool) (m : Merger) (ss : List (Shard σ)) : Cursor σ :=
  if onRow then
    { c with merger := m, shards := ss, phase := .onRow, rowsEmitted := c.rowsEmitted + 1 }
  else { c with merger := m, shards := ss, phase := .exhausted }

lemma advance_eq_moved (hphase : c.phase = .beforeFirst ∨ c.phase = .onRow)
    (hlimit : c.pagination = none) {b : Bool} {m : Merger} {ss : List (Shard σ)}
    (h : c.merger.advance c.shards = (.ok b, m, ss)) : c.advance = (.ok b, c.moved b m ss) := by
  have hdraw : c.drawInWindow = (.ok b, { c with merger := m, shards := ss }) := by
    simp only [drawInWindow, hlimit, draw, h]
  rcases hphase with hphase | hphase <;> cases b <;> simp only [advance, hphase, hdraw] <;> rfl

/-- Reading a cell leaves the merge on its row. -/
lemma readCurrent_of_sits {P : List (Shard σ) → Prop} {ss : List (Shard σ)}
    (h : c.merger.Sits V r P ss) (hss : c.shards = ss) {i : Nat} (hi : i < V.width) :
    ∃ ss', c.readCurrent (i + 1) .any = (.ok (r.cell i), { c with shards := ss' }) ∧
      c.merger.Sits V r P ss' := by
  cases h with
  | copy hm hr hp =>
    have hget : r[i]? = some (r.cell i) := by
      rw [Row.cell, List.getD_eq_getElem?_getD, List.getElem?_eq_getElem (hr ▸ hi)]
      rfl
    refine ⟨ss, ?_, .copy hm hr hp⟩
    simp only [readCurrent, hm, readCopy, Nat.add_sub_cancel, hget, Cell.coerce_any, ← hss]
  | @shard k ss₁ s ss₂ q hm hk hs hp =>
    obtain ⟨s', hvalue, hs'⟩ := hs.value hi
    refine ⟨ss₁ ++ s' :: ss₂, ?_, .shard hm hk hs' hp⟩
    simp only [readCurrent, hm, hss, getElem?_append_cons hk, hvalue, set_append_cons hk]

/-- The rows that a cursor over sources with a view has to come. -/
def view (V : SourceView σ) : SourceView (Cursor σ) where
  width := V.width
  Shows c current rest :=
    c.pagination = none ∧ c.columnCount = V.width ∧ c.Displays V current rest
  length_eq h := h.2.2.2.length_eq
  advance_nil {c current} h := by
    obtain ⟨hlimit, hcount, hshows⟩ := h
    by_cases hphase : c.phase = .exhausted
    · have hadv : c.advance = (.ok false, c) := by simp only [advance, hphase]
      exact ⟨c, hadv, hlimit, hcount, Or.inr ⟨hphase, rfl⟩⟩
    · obtain ⟨hlive, hend⟩ := hshows.delivers hphase
      refine ⟨_, advance_eq_moved hlive hlimit (Prod.ext hend rfl), hlimit, hcount, ?_⟩
      exact Or.inr ⟨rfl, rfl⟩
  advance_cons {c current r rest} h := by
    obtain ⟨hlimit, hcount, hshows⟩ := h
    have hphase : c.phase ≠ .exhausted := by
      intro hphase
      cases current with
      | none =>
        rcases hshows with ⟨hp, -⟩ | ⟨-, hnil⟩
        · rw [hphase] at hp
          cases hp
        · cases hnil
      | some r =>
        have hp := hshows.1
        rw [hphase] at hp
        cases hp
    obtain ⟨hlive, m, ss, hadv, hsits⟩ := hshows.delivers hphase
    exact ⟨_, advance_eq_moved hlive hlimit hadv, hlimit, hcount, rfl, hsits⟩
  value {c r rest i} h hi := by
    obtain ⟨hlimit, hcount, hshows⟩ := h
    obtain ⟨ss, hread, hsits⟩ := readCurrent_of_sits hshows.2 rfl hi
    exact ⟨_, value_eq_readCurrent hshows.1 hlimit (hcount ▸ hi) hread, hlimit, hcount, hshows.1,
      hsits⟩

/-- A cursor drains to the rows that it shows. -/
lemma drain_of_shows {c : Cursor σ} (h : (view V).Shows c none rows) :
    c.drain.1 = (rows, none) := by
  obtain ⟨hlimit, hcount, ⟨hphase, hdelivers⟩ | ⟨hphase, rfl⟩⟩ := h
  · exact drain_of_emits hdelivers.emits ⟨rfl, rfl, Or.inl hphase, hlimit, hcount⟩
  · have hadv : c.advance = (.ok false, c) := by simp only [advance, hphase]
    rw [drain_def, hadv]

end Cursor

end Confluence
