import Confluence.Proofs.Cursor.Promises

/-!
# The phases of a cursor

The answers of a cursor tell its phase, whatever sources it is over. Its shards are all open until
an answer is final, and from then on they are all closed; so nothing is read from a cursor that came
to its end or was closed, and no failure to close takes the place of the failure that led to it.
-/

namespace Confluence

/-! ### Closing -/

namespace Shard

variable {σ : Type} [RowSource σ]

/-- The failure of the source of a shard to close, if it fails. -/
def closeFailure? (s : Shard σ) : Option Failure :=
  match (RowSource.close s.source).1 with
  | .ok () => none
  | .error e => some e

/-- A shard whose source was closed. -/
def ended (s : Shard σ) : Shard σ :=
  { s with source := (RowSource.close s.source).2, closed := true }

end Shard

/-! ### Answers -/

namespace ClientAnswer

/-- Whether an answer says that the cursor came to a row. -/
def cameToRow : ClientAnswer → Bool
  | .advanced (.ok true) => true
  | _ => false

/-- Whether an answer says that there are no more rows. -/
def cameToEnd : ClientAnswer → Bool
  | .advanced (.ok false) => true
  | _ => false

/-- The phase of a cursor after an answer. Nothing follows the end of the rows but being closed,
and nothing follows that. -/
def phase (before : Phase) (a : ClientAnswer) : Phase :=
  match before with
  | .closed => .closed
  | .exhausted => if a.isFinal then .closed else .exhausted
  | .beforeFirst | .onRow =>
    if a.isFinal then .closed
    else if a.cameToRow then .onRow
    else if a.cameToEnd then .exhausted
    else before

lemma phase_of_isFinal {a : ClientAnswer} (h : a.isFinal = true) (before : Phase) :
    phase before a = .closed := by
  cases before <;> simp [phase, h]

lemma phase_ne_closed {a : ClientAnswer} {before : Phase} (h : a.isFinal = false)
    (hbefore : before ≠ .closed) : phase before a ≠ .closed := by
  cases before with
  | closed => exact absurd rfl hbefore
  | exhausted => simp [phase, h]
  | beforeFirst => cases hr : a.cameToRow <;> cases he : a.cameToEnd <;> simp [phase, h, hr, he]
  | onRow => cases hr : a.cameToRow <;> cases he : a.cameToEnd <;> simp [phase, h, hr, he]

lemma foldl_phase_closed (as : List ClientAnswer) : as.foldl phase .closed = .closed := by
  induction as with
  | nil => rfl
  | cons a as ih => exact ih

/-- A cursor is closed exactly from its first final answer on. -/
lemma foldl_phase_eq_closed_iff (as : List ClientAnswer) {before : Phase}
    (h : before ≠ .closed) : as.foldl phase before = .closed ↔ ∃ a ∈ as, a.isFinal = true := by
  induction as generalizing before with
  | nil => simpa using h
  | cons a as ih =>
    rw [List.foldl_cons]
    cases ha : a.isFinal with
    | true => simp [phase_of_isFinal ha, foldl_phase_closed, ha]
    | false => simp [ih (phase_ne_closed ha h), ha]

end ClientAnswer

namespace Cursor

variable {σ : Type} [RowSource σ] {c : Cursor σ} {n : Nat}

lemma closeShards_of_closed {ss : List (Shard σ)} (h : ∀ s ∈ ss, s.closed = true) :
    closeShards ss = ((none, 0), ss) := by
  induction ss with
  | nil => rfl
  | cons s ss ih =>
    rw [List.forall_mem_cons] at h
    rw [closeShards, if_pos h.1, ih h.2]

/-- All shards are closed, and the first failure is that of the lowest-numbered one that fails. -/
lemma closeShards_of_open {ss : List (Shard σ)} (h : ∀ s ∈ ss, s.closed = false) :
    closeShards ss = ((ss.findSome? Shard.closeFailure?, ss.length), ss.map Shard.ended) := by
  induction ss with
  | nil => rfl
  | cons s ss ih =>
    rw [List.forall_mem_cons] at h
    have hnot : ¬ s.closed = true := by simp [h.1]
    rw [closeShards, if_neg hnot, ih h.2, List.findSome?_cons, Shard.closeFailure?, List.map_cons,
      Shard.ended, Shard.close, if_neg hnot]
    rcases RowSource.close s.source with ⟨e | u, source⟩ <;> rfl

/-! ### Phases -/

/-- A cursor whose `n` shards, numbered from 0, are all open, or all closed and counted. -/
structure Tidy (n : Nat) (c : Cursor σ) : Prop where
  shards : List.Forall₂ (fun k s => s.number = k ∧ s.closed = decide (c.phase = .closed))
    (List.range n) c.shards
  sourcesClosed_eq : c.sourcesClosed = if c.phase = .closed then n else 0

lemma upholds_closed (b : Bool) :
    Shard.Upholds (fun (k : Nat) (s : Shard σ) => s.number = k ∧ s.closed = b) fun _ => True where
  own _ := trivial
  advance {k s} h := by
    rw [Shard.advance]
    split
    · exact h
    · split
      · exact h
      · exact h
      · exact ⟨trivial, h⟩
  value {k s} i t h := by
    rw [Shard.value]
    split
    · exact h
    · exact ⟨trivial, h⟩

omit [RowSource σ] in
lemma closed_of_tidy (h : c.Tidy n) : ∀ s ∈ c.shards, s.closed = decide (c.phase = .closed) :=
  forall_of_forall₂ h.shards fun _ _ _ h => h.2

omit [RowSource σ] in
lemma Tidy.length_eq (h : c.Tidy n) : c.shards.length = n := by
  rw [← h.shards.length_eq, List.length_range]

/-- Closing a cursor that is open closes all its shards. -/
lemma shut_of_open (h : ∀ s ∈ c.shards, s.closed = false) :
    c.shut = (c.shards.findSome? Shard.closeFailure?,
      { c with shards := c.shards.map Shard.ended, phase := .closed,
               sourcesClosed := c.sourcesClosed + c.shards.length }) := by
  rw [shut, closeShards_of_open h]

lemma shut_of_closed (h : ∀ s ∈ c.shards, s.closed = true) (hphase : c.phase = .closed) :
    c.shut = (none, c) := by
  rw [shut, closeShards_of_closed h, ← hphase]
  rfl

lemma close_eq (c : Cursor σ) :
    c.close = (match c.shut.1 with | none => .ok () | some e => .error e, c.shut.2) := by
  rw [close]
  rcases c.shut with ⟨_ | e, c'⟩ <;> rfl

lemma Tidy.shut (h : c.Tidy n) : c.shut.2.Tidy n := by
  by_cases hphase : c.phase = .closed
  · rw [shut_of_closed (by simpa [hphase] using closed_of_tidy h) hphase]
    exact h
  · rw [shut_of_open (by simpa [hphase] using closed_of_tidy h)]
    refine ⟨?_, ?_⟩
    · rw [List.forall₂_map_right_iff]
      exact h.shards.imp fun k s hs => ⟨hs.1, rfl⟩
    · simp [h.sourcesClosed_eq, hphase, h.length_eq]

omit [RowSource σ] in
lemma Tidy.of_phase {c' : Cursor σ} (h : c.Tidy n) (hphase : c.phase ≠ .closed)
    (hphase' : c'.phase ≠ .closed)
    (hshards : List.Forall₂ (fun k s => s.number = k ∧ s.closed = false) (List.range n) c'.shards)
    (hclosed : c'.sourcesClosed = c.sourcesClosed) : c'.Tidy n := by
  refine ⟨?_, ?_⟩
  · simpa only [hphase', decide_false] using hshards
  · rw [hclosed, h.sourcesClosed_eq, if_neg hphase, if_neg hphase']

/-- What the answer to a call says of the cursor that it leaves. -/
structure Becomes (n : Nat) (c : Cursor σ) (a : ClientAnswer) (c' : Cursor σ) : Prop where
  tidy : c'.Tidy n
  wellBound : c'.phase ≠ .closed → c'.merger.WellBound
  phase_eq : c'.phase = ClientAnswer.phase c.phase a
  columnCount_eq : c'.columnCount = c.columnCount
  rowsEmitted_eq : c'.rowsEmitted = c.rowsEmitted + if a.cameToRow then 1 else 0
  exhausted : c.phase = .exhausted → a.isFinal = true → ∃ r, a = .closed r
  atEnd : a.cameToEnd = true → c'.phase = .exhausted
  atRow : a.cameToRow = true → c'.phase = .onRow

lemma Tidy.advance (h : c.Tidy n) (hm : c.phase ≠ .closed → c.merger.WellBound) :
    Becomes n c (.advanced c.advance.1) c.advance.2 := by
  rw [Cursor.advance]
  split
  next hphase =>
    refine ⟨h, hm, by rw [hphase]; rfl, rfl, rfl, ?_, fun _ => hphase, ?_⟩
    · rintro - ⟨⟩
    · rintro ⟨⟩
  next hphase =>
    refine ⟨h, hm, by rw [hphase]; rfl, rfl, rfl, ?_, ?_, ?_⟩
    · rw [hphase]
      rintro ⟨⟩
    · rintro ⟨⟩
    · rintro ⟨⟩
  all_goals
    next hphase =>
      have hopen : c.phase ≠ .closed := by simp [hphase]
      have hrows : c.phase = .exhausted → False := by simp [hphase]
      have hshards : List.Forall₂ (fun k s => s.number = k ∧ s.closed = false) (List.range n)
          c.shards := by simpa only [hopen, decide_false] using h.shards
      have hdraw := drawInWindow_leaves (upholds_closed false) (hm hopen) hshards
      obtain ⟨merger, shards, pagination, heq⟩ := c.exists_drawInWindow_eq
      rcases hr : c.drawInWindow with ⟨e | _ | _, c₁⟩ <;> rw [hr] at hdraw heq <;>
        simp only at heq <;> subst heq
      · have htidy : Tidy n { c with merger, shards, pagination } :=
          h.of_phase hopen hopen hdraw.2 rfl
        refine ⟨htidy.shut, fun hclosed => absurd rfl hclosed, by rw [hphase]; rfl, rfl, rfl,
          fun hend => (hrows hend).elim, ?_, ?_⟩
        · rintro ⟨⟩
        · rintro ⟨⟩
      · refine ⟨h.of_phase hopen (by simp) hdraw.1.1 rfl, fun _ => hdraw.1.2, by rw [hphase]; rfl, rfl,
          rfl, fun hend => (hrows hend).elim, fun _ => rfl, ?_⟩
        rintro ⟨⟩
      · refine ⟨h.of_phase hopen (by simp) hdraw.1.1 rfl, fun _ => hdraw.1.2, by rw [hphase]; rfl, rfl,
          rfl, fun hend => (hrows hend).elim, ?_, fun _ => rfl⟩
        rintro ⟨⟩

/-- What a read says of the cursor that it leaves. -/
structure Reads {α : Type} (n : Nat) (c : Cursor σ) (r : Except Failure α) (c' : Cursor σ) :
    Prop where
  tidy : c'.Tidy n
  wellBound : c'.phase ≠ .closed → c'.merger.WellBound
  phase_eq : c'.phase = if isLost r then .closed else c.phase
  columnCount_eq : c'.columnCount = c.columnCount
  rowsEmitted_eq : c'.rowsEmitted = c.rowsEmitted
  onRow : isLost r = true → c.phase = .onRow

omit [RowSource σ] in
lemma Tidy.reads {α : Type} {r : Except Failure α} (h : c.Tidy n)
    (hm : c.phase ≠ .closed → c.merger.WellBound) (hr : isLost r = false) : Reads n c r c where
  tidy := h
  wellBound := hm
  phase_eq := by rw [hr]; rfl
  columnCount_eq := rfl
  rowsEmitted_eq := rfl
  onRow hlost := by rw [hr] at hlost; cases hlost

lemma Tidy.value (h : c.Tidy n) (hm : c.phase ≠ .closed → c.merger.WellBound) (i : Nat)
    (t : SqlType) : Reads n c (c.value i t).1 (c.value i t).2 := by
  rw [Cursor.value]
  split
  · exact h.reads hm rfl
  · exact h.reads hm rfl
  · exact h.reads hm rfl
  next hphase =>
    split
    · exact h.reads hm rfl
    · have hopen : c.phase ≠ .closed := by simp [hphase]
      have hshards : List.Forall₂ (fun k s => s.number = k ∧ s.closed = false) (List.range n)
          c.shards := by simpa only [hopen, decide_false] using h.shards
      have hshards' := readColumn_keeps (upholds_closed false) hshards i t
      obtain ⟨r, shards, hr⟩ := c.exists_readColumn_eq i t
      rw [hr] at hshards'
      have htidy : Tidy n { c with shards } := h.of_phase hopen hopen hshards' rfl
      rw [hr]
      rcases r with e | v
      · simp only
        split
        next he =>
          exact ⟨htidy.shut, fun hclosed => absurd rfl hclosed, (if_pos he).symm, rfl, rfl,
            fun _ => hphase⟩
        next he => exact ⟨htidy, hm, (if_neg he).symm, rfl, rfl, fun _ => hphase⟩
      · exact ⟨h.of_phase hopen hopen hshards' rfl, hm, rfl, rfl, rfl, fun _ => hphase⟩

omit [RowSource σ] in
lemma Reads.of_ok {α β : Type} {c₁ c₂ : Cursor σ} {v : α} {r : Except Failure β}
    (h₁ : Reads n c (.ok v : Except Failure α) c₁) (h₂ : Reads n c₁ r c₂) : Reads n c r c₂ where
  tidy := h₂.tidy
  wellBound := h₂.wellBound
  phase_eq := by rw [h₂.phase_eq, h₁.phase_eq]; rfl
  columnCount_eq := h₂.columnCount_eq.trans h₁.columnCount_eq
  rowsEmitted_eq := h₂.rowsEmitted_eq.trans h₁.rowsEmitted_eq
  onRow hlost := h₁.phase_eq.symm.trans (h₂.onRow hlost)

omit [RowSource σ] in
lemma Reads.congr {α β : Type} {c' : Cursor σ} {r : Except Failure α} {r' : Except Failure β}
    (h : Reads n c r c') (hr : isLost r = isLost r') : Reads n c r' c' where
  tidy := h.tidy
  wellBound := h.wellBound
  phase_eq := by rw [h.phase_eq, hr]
  columnCount_eq := h.columnCount_eq
  rowsEmitted_eq := h.rowsEmitted_eq
  onRow hlost := h.onRow (hr.trans hlost)

lemma Tidy.readFrom (h : c.Tidy n) (hm : c.phase ≠ .closed → c.merger.WellBound) (first k : Nat) :
    Reads n c (c.readFrom first k).1 (c.readFrom first k).2 := by
  induction k generalizing c first with
  | zero => exact h.reads hm rfl
  | succ k ih =>
    have hval := h.value hm first .any
    rw [Cursor.readFrom]
    rcases hr : c.value first .any with ⟨e | v, c₁⟩ <;> rw [hr] at hval
    · exact hval.congr rfl
    · have hrest := hval.of_ok (ih hval.tidy hval.wellBound (first + 1))
      simp only
      rcases hr' : c₁.readFrom (first + 1) k with ⟨e | vs, c₂⟩ <;> rw [hr'] at hrest
      · exact hrest
      · exact hrest.congr rfl

omit [RowSource σ] in
lemma Reads.becomes {α : Type} {c' : Cursor σ} {r : Except Failure α} {a : ClientAnswer}
    (h : Reads n c r c') (hfinal : a.isFinal = isLost r) (hrow : a.cameToRow = false)
    (hend : a.cameToEnd = false) : Becomes n c a c' where
  tidy := h.tidy
  wellBound := h.wellBound
  phase_eq := by
    rw [h.phase_eq]
    cases hlost : isLost r with
    | true => rw [ClientAnswer.phase_of_isFinal (hfinal.trans hlost), if_pos rfl]
    | false => cases c.phase <;> simp [ClientAnswer.phase, hfinal, hlost, hrow, hend]
  columnCount_eq := h.columnCount_eq
  rowsEmitted_eq := by
    rw [h.rowsEmitted_eq, hrow]
    rfl
  exhausted hphase hlost := by
    rw [hfinal] at hlost
    rw [h.onRow hlost] at hphase
    cases hphase
  atEnd h := by
    rw [hend] at h
    cases h
  atRow h := by
    rw [hrow] at h
    cases h

lemma becomes_value (h : c.Tidy n) (hm : c.phase ≠ .closed → c.merger.WellBound) (i : Nat)
    (t : SqlType) : Becomes n c (.value (c.value i t).1) (c.value i t).2 := by
  refine (h.value hm i t).becomes ?_ rfl rfl
  rcases (c.value i t).1 with e | v <;> rfl

/-- One call on a cursor that was not dropped. -/
theorem Tidy.answer (h : c.Tidy n) (hm : c.phase ≠ .closed → c.merger.WellBound)
    {call : ClientCall} (hcall : call ≠ .drop) :
    Becomes n c (c.answer call).1 (c.answer call).2 := by
  cases call with
  | advance => exact h.advance hm
  | value i t => exact becomes_value h hm i t
  | valueByLabel label t =>
    simp only [Cursor.answer, valueByLabel]
    split
    · exact becomes_value h hm _ t
    next hnone =>
      exact (h.reads (r := (.error (.unknownColumn label) : Except Failure Cell)) hm rfl).becomes
        rfl rfl rfl
  | currentRow =>
    refine (h.readFrom hm 1 c.columnCount).becomes ?_ rfl rfl
    simp only [Cursor.answer, currentRow]
    rcases (c.readFrom 1 c.columnCount).1 with e | v <;> rfl
  | wasNull =>
    have hnotLost : isLost (.ok () : Except Failure Unit) = false := rfl
    exact (h.reads hm hnotLost).becomes rfl rfl rfl
  | close =>
    simp only [Cursor.answer, close_eq]
    refine ⟨h.shut, fun hclosed => absurd rfl hclosed, (ClientAnswer.phase_of_isFinal rfl _).symm,
      rfl, rfl, fun _ _ => ⟨_, rfl⟩, ?_, ?_⟩
    · rintro ⟨⟩
    · rintro ⟨⟩
  | drop => exact absurd rfl hcall

/-! ### Sessions -/

lemma run_cons {call : ClientCall} (hcall : call ≠ .drop) (calls : List ClientCall) :
    c.run (call :: calls) = ((c.answer call).1 :: ((c.answer call).2.run calls).1,
      ((c.answer call).2.run calls).2) := by
  simp only [run, if_neg hcall]

/-- A session on a cursor that was not dropped. -/
theorem Tidy.run (h : c.Tidy n) (hm : c.phase ≠ .closed → c.merger.WellBound)
    {calls : List ClientCall} (hdrop : .drop ∉ calls) :
    (c.run calls).2.Tidy n ∧
      (c.run calls).2.phase = (c.run calls).1.foldl ClientAnswer.phase c.phase ∧
      (c.run calls).2.columnCount = c.columnCount ∧
      (c.run calls).2.rowsEmitted =
        c.rowsEmitted + (c.run calls).1.countP (·.cameToRow) ∧
      ((c.run calls).2.phase ≠ .closed → (c.run calls).2.merger.WellBound) := by
  induction calls generalizing c with
  | nil => exact ⟨h, rfl, rfl, rfl, hm⟩
  | cons call calls ih =>
    rw [List.mem_cons, not_or] at hdrop
    have hstep := h.answer hm (Ne.symm hdrop.1)
    obtain ⟨htidy, hphase, hcount, hrows, hwell⟩ := ih hstep.tidy hstep.wellBound hdrop.2
    rw [run_cons (Ne.symm hdrop.1)]
    refine ⟨htidy, ?_, hcount.trans hstep.columnCount_eq, ?_, hwell⟩
    · rw [List.foldl_cons, ← hstep.phase_eq, hphase]
    · rw [hrows, hstep.rowsEmitted_eq, List.countP_cons]
      omega

/-- The end of the rows lasts until the cursor is closed. -/
lemma Tidy.run_exhausted (h : c.Tidy n) (hm : c.phase ≠ .closed → c.merger.WellBound)
    {calls : List ClientCall} (hdrop : .drop ∉ calls) (hphase : c.phase = .exhausted)
    (hclosed : ∀ r, .closed r ∉ (c.run calls).1) : (c.run calls).2.phase = .exhausted := by
  induction calls generalizing c with
  | nil => exact hphase
  | cons call calls ih =>
    rw [List.mem_cons, not_or] at hdrop
    have hstep := h.answer hm (Ne.symm hdrop.1)
    rw [run_cons (Ne.symm hdrop.1)] at hclosed ⊢
    simp only [List.mem_cons, not_or] at hclosed
    refine ih hstep.tidy hstep.wellBound hdrop.2 ?_ fun r => (hclosed r).2
    have hfinal : (c.answer call).1.isFinal = false := by
      rw [← Bool.not_eq_true]
      intro hfinal
      obtain ⟨r, hr⟩ := hstep.exhausted hphase hfinal
      exact (hclosed r).1 hr.symm
    rw [hstep.phase_eq, hphase, ClientAnswer.phase, hfinal]
    rfl

/-- The answers behind any answer of a session are those of a session of their own. -/
lemma Tidy.exists_run_after (h : c.Tidy n) (hm : c.phase ≠ .closed → c.merger.WellBound)
    {calls : List ClientCall} (hdrop : .drop ∉ calls) {a : ClientAnswer}
    {as₁ as₂ : List ClientAnswer} (has : (c.run calls).1 = as₁ ++ a :: as₂) :
    ∃ c₀ c₁ rest, Becomes n c₀ a c₁ ∧ .drop ∉ rest ∧ c₁.run rest = (as₂, (c.run calls).2) := by
  induction calls generalizing c as₁ with
  | nil =>
    simp [Cursor.run] at has
  | cons call calls ih =>
    rw [List.mem_cons, not_or] at hdrop
    have hstep := h.answer hm (Ne.symm hdrop.1)
    rw [run_cons (Ne.symm hdrop.1)] at has ⊢
    cases as₁ with
    | nil =>
      rw [List.nil_append, List.cons.injEq] at has
      obtain ⟨rfl, rfl⟩ := has
      exact ⟨c, _, calls, hstep, hdrop.2, rfl⟩
    | cons a as₁ =>
      rw [List.cons_append, List.cons.injEq] at has
      exact ih hstep.tidy hstep.wellBound hdrop.2 has.2

lemma Tidy.run_of_end (h : c.Tidy n) (hm : c.phase ≠ .closed → c.merger.WellBound)
    {calls : List ClientCall} (hdrop : .drop ∉ calls) {as₁ as₂ : List ClientAnswer}
    (has : (c.run calls).1 = as₁ ++ .advanced (.ok false) :: as₂) (hclosed : ∀ r, .closed r ∉ as₂) :
    (c.run calls).2.phase = .exhausted := by
  obtain ⟨c₀, c₁, rest, hstep, hrest, hrun⟩ := h.exists_run_after hm hdrop has
  have hlast := hstep.tidy.run_exhausted hstep.wellBound hrest (hstep.atEnd rfl)
  rw [hrun] at hlast
  exact hlast hclosed

/-- The row that a cursor came to lasts until the cursor is moved on or closed. -/
lemma Tidy.run_onRow (h : c.Tidy n) (hm : c.phase ≠ .closed → c.merger.WellBound)
    {calls : List ClientCall} (hdrop : .drop ∉ calls) (hphase : c.phase = .onRow)
    (hstays : ∀ a ∈ (c.run calls).1, a.isFinal = false ∧ ∀ r, a ≠ .advanced r) :
    (c.run calls).2.phase = .onRow := by
  obtain ⟨-, hfold, -⟩ := h.run hm hdrop
  rw [hfold, hphase]
  generalize (c.run calls).1 = as at hstays
  induction as with
  | nil => rfl
  | cons a as ih =>
    rw [List.forall_mem_cons] at hstays
    obtain ⟨⟨hfinal, hadvanced⟩, hrest⟩ := hstays
    have hstep : ClientAnswer.phase .onRow a = .onRow := by
      cases a with
      | advanced r => exact absurd rfl (hadvanced r)
      | value r => simp [ClientAnswer.phase, hfinal, ClientAnswer.cameToRow, ClientAnswer.cameToEnd]
      | row r => simp [ClientAnswer.phase, hfinal, ClientAnswer.cameToRow, ClientAnswer.cameToEnd]
      | wasNull r => rfl
      | closed r => cases hfinal
      | dropped => cases hfinal
    rw [List.foldl_cons, hstep]
    exact ih hrest

lemma Tidy.run_of_row (h : c.Tidy n) (hm : c.phase ≠ .closed → c.merger.WellBound)
    {calls : List ClientCall} (hdrop : .drop ∉ calls) {as₁ as₂ : List ClientAnswer}
    (has : (c.run calls).1 = as₁ ++ .advanced (.ok true) :: as₂)
    (hstays : ∀ a ∈ as₂, a.isFinal = false ∧ ∀ r, a ≠ .advanced r) :
    (c.run calls).2.phase = .onRow := by
  obtain ⟨c₀, c₁, rest, hstep, hrest, hrun⟩ := h.exists_run_after hm hdrop has
  have hlast := hstep.tidy.run_onRow hstep.wellBound hrest (hstep.atRow rfl)
  rw [hrun] at hlast
  exact hlast hstays

/-! ### Opening -/

omit [RowSource σ] in
lemma forall₂_numberShards (sources : List σ) (k : Nat) :
    List.Forall₂ (fun k s => s.number = k ∧ s.closed = false) (List.range' k sources.length)
      (numberShards k sources) := by
  induction sources generalizing k with
  | nil => exact .nil
  | cons s sources ih => exact .cons ⟨rfl, rfl⟩ (ih (k + 1))

/-- A cursor is opened before its first row, and with all shards open. -/
lemma tidy_of_merge {config : Config} {shape : Shape} {sources : List σ}
    (hmerge : merge config shape sources = .ok c) :
    c.Tidy sources.length ∧ c.merger.WellBound ∧ c.phase = .beforeFirst ∧ c.rowsEmitted = 0 := by
  obtain ⟨x, b, -, hb, rfl⟩ := of_merge_eq_ok hmerge
  refine ⟨⟨?_, rfl⟩, Merger.wellBound_start hb config _, rfl, rfl⟩
  rw [List.range_eq_range']
  exact forall₂_numberShards sources 0

/-! ### What answers tell -/

/-- No value can be read. -/
structure NothingToRead (c : Cursor σ) : Prop where
  value (i : Nat) (t : SqlType) : ∃ m, (c.value i t).1 = .error (.prematureAccess m)
  wasNull : ∃ m, c.wasNull = .error (.prematureAccess m)

lemma nothingToRead (h : c.phase = .exhausted ∨ c.phase = .closed) : c.NothingToRead := by
  constructor
  · intro i t
    rcases h with h | h
    · exact ⟨_, by rw [Cursor.value, h]⟩
    · exact ⟨_, by rw [Cursor.value, h]⟩
  · rcases h with h | h
    · exact ⟨_, by rw [wasNull, h]⟩
    · exact ⟨_, by rw [wasNull, h]⟩

/-- What the answers so far tell of a cursor over `n` sources. -/
structure KeepsPhases (n : Nat) (as : List ClientAnswer) (c : Cursor σ) : Prop where
  /-- The end of the rows lasts until the cursor is closed, and nothing can be read there. -/
  atEnd (as₁ as₂ : List ClientAnswer) : as = as₁ ++ .advanced (.ok false) :: as₂ →
    (∀ r, .closed r ∉ as₂) → c.advance.1 = .ok false ∧ c.NothingToRead
  /-- After a final answer there is neither a next row nor a current one. -/
  atClose : (∃ a ∈ as, a.isFinal = true) →
    (∃ m, c.advance.1 = .error (.prematureAccess m)) ∧ c.NothingToRead ∧
      (0 < c.columnCount → ∃ m, c.currentRow.1 = .error (.prematureAccess m))
  /-- A failure to advance is that of the merge, whatever closing the shards answers. -/
  advance_error : (∀ a ∈ as, a.isFinal = false) → ∀ e, c.advance.1 = .error e →
    c.drawInWindow.1 = .error e ∧ c.advance.2.shards = c.drawInWindow.2.shards.map Shard.ended
  /-- A transient failure to read is that of the shard, whatever closing the shards answers. -/
  value_error : (∀ a ∈ as, a.isFinal = false) → ∀ i t e, (c.value i t).1 = .error e →
    e.isTransient = true → (c.readColumn i t).1 = .error e ∧
      (c.value i t).2.shards = (c.readColumn i t).2.shards.map Shard.ended
  /-- The first call to close closes every source and reports the first failure among them. -/
  close_open : (∀ a ∈ as, a.isFinal = false) →
    c.close.1 = (match c.shards.findSome? Shard.closeFailure? with
      | none => .ok ()
      | some e => .error e) ∧ c.close.2.shards = c.shards.map Shard.ended
  /-- Any later call to close does nothing. -/
  close_closed : (∃ a ∈ as, a.isFinal = true) → c.close = (.ok (), c)
  numbers_eq : c.shards.map (·.number) = List.range n
  rowsEmitted_eq : c.rowsEmitted = as.countP (·.cameToRow)
  sourcesClosed_eq : c.sourcesClosed = if as.any (·.isFinal) then n else 0
  countP_closed : c.shards.countP (·.closed) = c.sourcesClosed

omit [RowSource σ] in
lemma Tidy.openShards (h : c.Tidy n) (hphase : c.phase ≠ .closed) :
    List.Forall₂ (fun k s => s.number = k ∧ s.closed = false) (List.range n) c.shards := by
  simpa only [hphase, decide_false] using h.shards

lemma Tidy.advance_error (h : c.Tidy n) (hm : c.merger.WellBound) (hphase : c.phase ≠ .closed)
    {e : Failure} (he : c.advance.1 = .error e) :
    c.drawInWindow.1 = .error e ∧
      c.advance.2.shards = c.drawInWindow.2.shards.map Shard.ended := by
  have hdraw := drawInWindow_leaves (upholds_closed false) hm (h.openShards hphase)
  rw [Cursor.advance] at he ⊢
  split at he
  · cases he
  next hclosed => exact absurd hclosed hphase
  all_goals
    split at he
    · cases he
    · cases he
    next e₁ c₁ hc₁ =>
      cases he
      rw [hc₁] at hdraw ⊢
      have hopen : ∀ s ∈ c₁.shards, s.closed = false :=
        forall_of_forall₂ hdraw.2 fun _ _ _ h => h.2
      rw [shut_of_open hopen]
      exact ⟨rfl, rfl⟩

lemma Tidy.value_error (h : c.Tidy n) (hphase : c.phase ≠ .closed) {i : Nat} {t : SqlType}
    {e : Failure} (he : (c.value i t).1 = .error e) (htransient : e.isTransient = true) :
    (c.readColumn i t).1 = .error e ∧
      (c.value i t).2.shards = (c.readColumn i t).2.shards.map Shard.ended := by
  have hshards := readColumn_keeps (upholds_closed false) (h.openShards hphase) i t
  obtain ⟨r, shards, hr⟩ := c.exists_readColumn_eq i t
  rw [hr] at hshards
  have hopen : ∀ s ∈ shards, s.closed = false := forall_of_forall₂ hshards fun _ _ _ h => h.2
  have hpremature {m : String} (he : (Except.error (.prematureAccess m) : Except Failure Cell) =
      .error e) : False := by
    cases he
    cases htransient
  rw [Cursor.value] at he ⊢
  split at he
  · exact (hpremature he).elim
  · exact (hpremature he).elim
  · exact (hpremature he).elim
  · split at he
    · cases he
      cases htransient
    next hi =>
      rw [if_neg hi]
      rw [hr] at he ⊢
      rcases r with e₁ | v
      · simp only at he ⊢
        split at he
        next he₁ =>
          cases he
          rw [if_pos he₁, shut_of_open (c := { c with shards }) hopen]
          exact ⟨rfl, rfl⟩
        next he₁ =>
          cases he
          exact absurd htransient he₁
      · cases he

lemma Tidy.close_open (h : c.Tidy n) (hphase : c.phase ≠ .closed) :
    c.close.1 = (match c.shards.findSome? Shard.closeFailure? with
      | none => .ok ()
      | some e => .error e) ∧ c.close.2.shards = c.shards.map Shard.ended := by
  have hopen : ∀ s ∈ c.shards, s.closed = false :=
    forall_of_forall₂ (h.openShards hphase) fun _ _ _ h => h.2
  rw [close_eq, shut_of_open hopen]
  exact ⟨rfl, rfl⟩

lemma Tidy.close_closed (h : c.Tidy n) (hphase : c.phase = .closed) : c.close = (.ok (), c) := by
  rw [close_eq, shut_of_closed (by simpa [hphase] using closed_of_tidy h) hphase]

lemma currentRow_of_closed (hphase : c.phase = .closed) (hcount : 0 < c.columnCount) :
    ∃ m, c.currentRow.1 = .error (.prematureAccess m) := by
  obtain ⟨k, hk⟩ := Nat.exists_eq_add_one.mpr hcount
  exact ⟨_, by rw [currentRow, hk, readFrom, Cursor.value, hphase]⟩

omit [RowSource σ] in
lemma Tidy.numbers_eq (h : c.Tidy n) : c.shards.map (·.number) = List.range n := by
  have hnumbers := h.shards
  generalize List.range n = ks at hnumbers
  generalize c.shards = ss at hnumbers
  induction hnumbers with
  | nil => rfl
  | cons hs _ ih => rw [List.map_cons, hs.1, ih]

omit [RowSource σ] in
lemma Tidy.countP_closed (h : c.Tidy n) :
    c.shards.countP (·.closed) = if c.phase = .closed then n else 0 := by
  have hclosed := closed_of_tidy h
  split
  next hphase =>
    rw [← h.length_eq, List.countP_eq_length]
    simpa [hphase] using hclosed
  next hphase =>
    rw [List.countP_eq_zero]
    simpa [hphase] using hclosed

/-- The answers of a cursor keep to its phases, whatever its sources answer. -/
theorem keepsPhases_of_run {config : Config} {shape : Shape} {sources : List σ}
    (hmerge : merge config shape sources = .ok c) {calls : List ClientCall}
    (hdrop : .drop ∉ calls) :
    KeepsPhases sources.length (c.run calls).1 (c.run calls).2 := by
  obtain ⟨htidy₀, hm₀, hphase₀, hrows₀⟩ := tidy_of_merge hmerge
  have hbefore : c.phase ≠ .closed := by simp [hphase₀]
  obtain ⟨htidy, hfold, -, hrows, hm⟩ := htidy₀.run (fun _ => hm₀) hdrop
  have hclosed_iff := ClientAnswer.foldl_phase_eq_closed_iff (c.run calls).1 hbefore
  rw [← hfold] at hclosed_iff
  have hopen (h : ∀ a ∈ (c.run calls).1, a.isFinal = false) : (c.run calls).2.phase ≠ .closed := by
    rw [Ne, hclosed_iff]
    rintro ⟨a, ha, hfinal⟩
    rw [h a ha] at hfinal
    cases hfinal
  have hcounted : (c.run calls).2.sourcesClosed =
      if (c.run calls).1.any (·.isFinal) then sources.length else 0 := by
    simp only [htidy.sourcesClosed_eq, hclosed_iff, List.any_eq_true]
  constructor
  case atEnd =>
    intro as₁ as₂ has hnone
    have hphase := htidy₀.run_of_end (fun _ => hm₀) hdrop has hnone
    exact ⟨by rw [Cursor.advance, hphase], nothingToRead (Or.inl hphase)⟩
  case atClose =>
    intro hfinal
    have hphase := hclosed_iff.mpr hfinal
    exact ⟨⟨_, by rw [Cursor.advance, hphase]⟩, nothingToRead (Or.inr hphase),
      currentRow_of_closed hphase⟩
  case advance_error =>
    intro h e he
    exact htidy.advance_error (hm (hopen h)) (hopen h) he
  case value_error =>
    intro h i t e he htransient
    exact htidy.value_error (hopen h) he htransient
  case close_open =>
    intro h
    exact htidy.close_open (hopen h)
  case close_closed =>
    intro hfinal
    exact htidy.close_closed (hclosed_iff.mpr hfinal)
  case numbers_eq => exact htidy.numbers_eq
  case rowsEmitted_eq => rw [hrows, hrows₀, Nat.zero_add]
  case sourcesClosed_eq => exact hcounted
  case countP_closed => rw [htidy.countP_closed, htidy.sourcesClosed_eq]

/-- A leaf with one row that may fail to close. -/
def leafClosing (failure : Option Failure) : ScriptedSource where
  memory := { labels := ["k"], rows := [[.text "a"]] }
  script := { close := failure }

/-- Of two sources that fail to close the first one is reported, and only once; all three are
closed. -/
theorem keepsPhases_of_failing_close :
    ∃ c, merge {} {} [leafClosing none, leafClosing (some (.io "lost")),
        leafClosing (some (.io "gone"))] = .ok c ∧
      (c.run [.advance]).2.close.1 = .error (.io "lost") ∧
      (c.run [.advance, .close]).2.close.1 = .ok () ∧
      (c.run [.advance, .close]).2.rowsEmitted = 1 ∧
      (c.run [.advance, .close]).2.sourcesClosed = 3 := by
  obtain ⟨c, hc⟩ : ∃ c, merge {} {} [leafClosing none, leafClosing (some (.io "lost")),
      leafClosing (some (.io "gone"))] = .ok c := ⟨_, rfl⟩
  have hopen : KeepsPhases 3 (c.run [.advance]).1 (c.run [.advance]).2 :=
    keepsPhases_of_run hc (by decide)
  have hclosed : KeepsPhases 3 (c.run [.advance, .close]).1 (c.run [.advance, .close]).2 :=
    keepsPhases_of_run hc (by decide)
  have hfirst : ∀ a ∈ (c.run [.advance]).1, a.isFinal = false := by
    cases hc
    exact List.forall_mem_singleton.mpr rfl
  have hfinal : ∃ a ∈ (c.run [.advance, .close]).1, a.isFinal = true := by
    cases hc
    exact ⟨_, List.mem_cons_of_mem _ List.mem_cons_self, rfl⟩
  refine ⟨c, hc, ?_, ?_, ?_, ?_⟩
  · rw [(hopen.close_open hfirst).1]
    cases hc
    rfl
  · rw [hclosed.close_closed hfinal]
  · rw [hclosed.rowsEmitted_eq]
    cases hc
    rfl
  · rw [hclosed.sourcesClosed_eq, if_pos (List.any_eq_true.mpr hfinal)]

end Cursor

end Confluence
