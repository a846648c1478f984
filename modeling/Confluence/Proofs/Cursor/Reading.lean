import Confluence.Cursor.Session
import Confluence.Proofs.Cursor.Choice

/-!
# Reading disturbs nothing

What a client reads between its calls to advance and to close makes no difference to them, nor to
what is read later. A session is compared with the one that only moves: reads leave the cursor of the
former alike to that of the latter, and alike cursors answer alike.
-/

namespace Confluence

/-! ### Moves and reads -/

/-- The requests that move a cursor or end its life. All others only read. -/
def ClientRequest.isMove : ClientRequest → Bool
  | .call .advance => true
  | .call .close => true
  | .call .drop => true
  | .call (.value ..) | .call (.valueByLabel ..) | .call .currentRow | .call .wasNull
  | .columnLabel _ | .columnIndex _ => false

namespace ClientReply

/-- The replies to requests that move a cursor or end its life. -/
def isMove : ClientReply → Bool
  | .answer (.advanced _) => true
  | .answer (.closed _) => true
  | .answer .dropped => true
  | .answer (.value _) | .answer (.row _) | .answer (.wasNull _)
  | .columnLabel _ | .columnIndex _ => false

/-- Whether a reply is that a read lost its source. -/
def isLost : ClientReply → Bool
  | .answer (.value r) => Confluence.isLost r
  | .answer (.row r) => Confluence.isLost r
  | .answer (.advanced _) | .answer (.closed _) | .answer .dropped | .answer (.wasNull _)
  | .columnLabel _ | .columnIndex _ => false

end ClientReply

namespace ClientAnswer

lemma isFinal_value (r : Except Failure Cell) : (value r).isFinal = Confluence.isLost r := by
  rcases r with e | v <;> rfl

lemma isFinal_row (r : Except Failure Row) : (row r).isFinal = Confluence.isLost r := by
  rcases r with e | r <;> rfl

end ClientAnswer

namespace Cursor

section Alike

variable {σ τ : Type} [RowSource σ] [RowSource τ] {E : σ → τ → Prop} {c : Cursor σ} {d : Cursor τ}

/-! ### Cursors that are alike -/

/-- A client reads the same from two cursors. What was read last is not compared. -/
structure ReadAlike (c : Cursor σ) (d : Cursor τ) : Prop where
  value (i : Nat) (t : SqlType) : (c.value i t).1 = (d.value i t).1
  valueByLabel (label : String) (t : SqlType) :
    (c.valueByLabel label t).1 = (d.valueByLabel label t).1
  currentRow : c.currentRow.1 = d.currentRow.1
  columnLabel (i : Nat) : c.columnLabel i = d.columnLabel i
  columnIndex (label : String) : c.columnIndex? label = d.columnIndex? label

omit [RowSource τ] in
lemma ReadAlike.eucl {c₀ c₁ : Cursor σ} (h₁ : ReadAlike c₀ c) (h₂ : ReadAlike c₀ c₁) :
    ReadAlike c c₁ where
  value i t := (h₁.value i t).symm.trans (h₂.value i t)
  valueByLabel label t := (h₁.valueByLabel label t).symm.trans (h₂.valueByLabel label t)
  currentRow := h₁.currentRow.symm.trans h₂.currentRow
  columnLabel i := (h₁.columnLabel i).symm.trans (h₂.columnLabel i)
  columnIndex label := (h₁.columnIndex label).symm.trans (h₂.columnIndex label)

variable {M : Merger → Merger → Prop}

/-- Apart from what was read last, cursors that are alike reply alike. -/
lemma LikeBy.reply_eq [Merger.SameRow M] (hE : AnswerAlike fun _ => E) (hM : Merger.StepAlike M E)
    (h : c.LikeBy M E d) {r : ClientRequest} (hr : r ≠ .call .wasNull) :
    (c.serve r).1 = (d.serve r).1 := by
  cases r with
  | call call =>
    cases call with
    | advance => exact congrArg (ClientReply.answer ∘ .advanced) (advance_alikeBy hE hM h).fst_eq
    | value i t =>
      exact congrArg (ClientReply.answer ∘ .value) (value_alike (n := 0) hE h i t).fst_eq
    | valueByLabel label t =>
      exact congrArg (ClientReply.answer ∘ .value)
        (valueByLabel_alike (n := 0) hE h label t).fst_eq
    | currentRow =>
      exact congrArg (ClientReply.answer ∘ .row) (currentRow_alike (n := 0) hE h).fst_eq
    | wasNull => exact absurd rfl hr
    | close => exact congrArg (ClientReply.answer ∘ .closed) (close_alike (n := 0) hE h).fst_eq
    | drop => rfl
  | columnLabel i =>
    simp only [serve, Cursor.columnLabel, h.labels_eq]
  | columnIndex label =>
    simp only [serve, columnIndex?, h.labels_eq]

lemma LikeBy.readAlike [Merger.SameRow M] (hE : AnswerAlike fun _ => E) (h : c.LikeBy M E d) :
    ReadAlike c d where
  value i t := (value_alike (n := 0) hE h i t).fst_eq
  valueByLabel label t := (valueByLabel_alike (n := 0) hE h label t).fst_eq
  currentRow := (currentRow_alike (n := 0) hE h).fst_eq
  columnLabel i := by rw [Cursor.columnLabel, Cursor.columnLabel, h.labels_eq]
  columnIndex label := by rw [columnIndex?, columnIndex?, h.labels_eq]

/-! ### Reads of one cursor -/

omit [RowSource σ] in
lemma still_valueByLabel (hE : Still E) (h : c.LikeBy M E d) {label : String} {t : SqlType}
    (hlost : isLost (d.valueByLabel label t).1 = false) : c.LikeBy M E (d.valueByLabel label t).2 := by
  rw [Cursor.valueByLabel] at hlost ⊢
  split
  next i hi =>
    rw [hi] at hlost
    exact still_value hE h hlost
  · exact h

omit [RowSource σ] in
lemma still_readFrom (hE : Still E) (h : c.LikeBy M E d) (first k : Nat)
    (hlost : isLost (d.readFrom first k).1 = false) : c.LikeBy M E (d.readFrom first k).2 := by
  induction k generalizing d first with
  | zero => exact h
  | succ k ih =>
    have hvalue := still_value hE h (i := first) (t := .any)
    rw [readFrom] at hlost ⊢
    rcases hv : d.value first .any with ⟨e | v, d₁⟩ <;> rw [hv] at hlost hvalue
    · exact hvalue hlost
    · have hrest := ih (hvalue rfl) (first + 1)
      simp only at hlost ⊢
      rcases hvs : d₁.readFrom (first + 1) k with ⟨e | vs, d₂⟩ <;> rw [hvs] at hlost hrest
      · exact hrest hlost
      · exact hrest rfl

/-! ### Requests -/

lemma serve_alike [Merger.SameRow M] (hE : AnswerAlike fun _ => E) (hM : Merger.StepAlike M E)
    (h : c.LikeBy M E d) {r : ClientRequest} (hr : r.isMove = true) :
    Agree (LikeBy M E) (c.serve r) (d.serve r) ∧ (d.serve r).1.isMove = true := by
  have hreply : (c.serve r).1 = (d.serve r).1 := by
    apply h.reply_eq hE hM
    rintro rfl
    cases hr
  cases r with
  | call call =>
    cases call with
    | advance => exact ⟨⟨hreply, (advance_alikeBy hE hM h).snd⟩, rfl⟩
    | close => exact ⟨⟨hreply, (close_alike (n := 0) hE h).snd⟩, rfl⟩
    | drop => exact ⟨⟨hreply, drop_alike (n := 0) hE h⟩, rfl⟩
    | _ => cases hr
  | _ => cases hr

omit [RowSource σ] in
/-- A read leaves a cursor alike to what it was. -/
lemma still_serve (hE : Still E) (h : c.LikeBy M E d) {r : ClientRequest} (hr : r.isMove = false)
    (hlost : (d.serve r).1.isLost = false) :
    c.LikeBy M E (d.serve r).2 ∧ (d.serve r).1.isMove = false := by
  cases r with
  | call call =>
    cases call with
    | value i t => exact ⟨still_value hE h hlost, rfl⟩
    | valueByLabel label t => exact ⟨still_valueByLabel hE h hlost, rfl⟩
    | currentRow => exact ⟨still_readFrom hE h _ _ hlost, rfl⟩
    | wasNull => exact ⟨h, rfl⟩
    | _ => cases hr
  | columnLabel i => exact ⟨h, rfl⟩
  | columnIndex label => exact ⟨h, rfl⟩

omit [RowSource σ] in
/-- A call that moves nothing leaves a cursor alike to what it was, unless its answer is final. -/
lemma still_answer (hE : Still E) (h : c.LikeBy M E d) {call : ClientCall} (hadvance : call ≠ .advance)
    (hfinal : (d.answer call).1.isFinal = false) : c.LikeBy M E (d.answer call).2 := by
  have hserve (hmove : (ClientRequest.call call).isMove = false)
      (hlost : (d.serve (.call call)).1.isLost = false) : c.LikeBy M E (d.answer call).2 :=
    (still_serve hE h hmove hlost).1
  cases call with
  | advance => exact absurd rfl hadvance
  | value i t => exact hserve rfl ((ClientAnswer.isFinal_value _).symm.trans hfinal)
  | valueByLabel label t => exact hserve rfl ((ClientAnswer.isFinal_value _).symm.trans hfinal)
  | currentRow => exact hserve rfl ((ClientAnswer.isFinal_row _).symm.trans hfinal)
  | wasNull => exact hserve rfl rfl
  | close => cases hfinal
  | drop => cases hfinal

omit [RowSource τ] in
lemma serveAll_cons {r : ClientRequest} (hr : r ≠ .call .drop) (rs : List ClientRequest) :
    c.serveAll (r :: rs) = ((c.serve r).1 :: ((c.serve r).2.serveAll rs).1,
      ((c.serve r).2.serveAll rs).2) := by
  simp only [serveAll, if_neg hr]

omit [RowSource σ] in
lemma serveAll_prefix_append (rs rs' : List ClientRequest) :
    (d.serveAll rs).1 <+: (d.serveAll (rs ++ rs')).1 := by
  induction rs generalizing d with
  | nil => exact List.nil_prefix
  | cons r rs ih =>
    by_cases hdrop : r = .call .drop
    · subst hdrop
      exact List.prefix_rfl
    · rw [List.cons_append, serveAll_cons hdrop, serveAll_cons hdrop, List.cons_prefix_cons]
      exact ⟨rfl, ih⟩

omit [RowSource σ] in
/-- A request is answered where the requests before it lead to, unless one of them drops the
cursor. -/
lemma getElem?_serveAll (rs : List ClientRequest) (r : ClientRequest) (rs' : List ClientRequest) :
    (d.serveAll (rs ++ r :: rs')).1[rs.length]? =
      if .call .drop ∈ rs then none else some ((d.serveAll rs).2.serve r).1 := by
  induction rs generalizing d with
  | nil =>
    by_cases hdrop : r = .call .drop
    · subst hdrop
      rfl
    · rw [List.nil_append, serveAll_cons hdrop]
      rfl
  | cons r₁ rs ih =>
    by_cases hdrop : r₁ = .call .drop
    · subst hdrop
      rw [if_pos List.mem_cons_self]
      rfl
    · rw [List.cons_append, serveAll_cons hdrop, serveAll_cons hdrop, List.length_cons,
        List.getElem?_cons_succ, ih]
      simp only [List.mem_cons, Ne.symm hdrop, false_or]

/-- A session that reads goes on like the one that only moves. -/
theorem serveAll_moves [Merger.SameRow M] (hE : AnswerAlike fun _ => E) (hstill : Still E)
    (hM : Merger.StepAlike M E) (h : c.LikeBy M E d)
    {rs : List ClientRequest} (hlost : ∀ a ∈ (d.serveAll rs).1, a.isLost = false) :
    (c.serveAll (rs.filter (·.isMove))).1 = (d.serveAll rs).1.filter (·.isMove) ∧
      (c.serveAll (rs.filter (·.isMove))).2.LikeBy M E (d.serveAll rs).2 := by
  induction rs generalizing c d with
  | nil => exact ⟨rfl, h⟩
  | cons r rs ih =>
    by_cases hdrop : r = .call .drop
    · subst hdrop
      exact ⟨rfl, drop_alike (n := 0) hE h⟩
    · rw [serveAll_cons hdrop] at hlost ⊢
      rw [List.forall_mem_cons] at hlost
      cases hr : r.isMove with
      | true =>
        obtain ⟨hserve, hreply⟩ := serve_alike hE hM h hr
        obtain ⟨hreplies, hlike⟩ := ih hserve.snd hlost.2
        rw [List.filter_cons_of_pos hr, serveAll_cons hdrop, List.filter_cons_of_pos hreply]
        exact ⟨congrArg₂ List.cons hserve.fst_eq hreplies, hlike⟩
      | false =>
        obtain ⟨hserve, hreply⟩ := still_serve hstill h hr hlost.1
        rw [List.filter_cons_of_neg (by simp [hr]), List.filter_cons_of_neg (by simp [hreply])]
        exact ih hserve hlost.2

end Alike

/-! ### Reads that fail -/

section Failing

variable {σ : Type} [RowSource σ] {E : σ → σ → Prop} {c : Cursor σ}

/-- A read that fails leaves what was read last. -/
lemma wasNull_of_value_eq_error {i : Nat} {t : SqlType} {e : Failure}
    (h : (c.value i t).1 = .error e) (he : e.isTransient = false) :
    (c.value i t).2.wasNull = c.wasNull := by
  rw [value] at h ⊢
  split
  · rfl
  · rfl
  · rfl
  next hphase =>
    rw [hphase] at h
    simp only at h
    split
    · rfl
    next hi =>
      obtain ⟨r, shards, hr⟩ := c.exists_readColumn_eq i t
      rw [if_neg hi] at h
      rw [hr] at h ⊢
      rcases r with e' | v
      · simp only at h ⊢
        by_cases he' : e'.isTransient = true
        · rw [if_pos he'] at h
          cases h
          rw [he] at he'
          cases he'
        · rw [if_neg he']
          rfl
      · cases h

/-- A read that fails without losing its source leaves the row and what was read last. -/
structure FailsAside (c : Cursor σ) : Prop where
  value (i : Nat) (t : SqlType) (e : Failure) : (c.value i t).1 = .error e →
    e.isTransient = false →
    (c.value i t).2.wasNull = c.wasNull ∧ (c.value i t).2.currentRow.1 = c.currentRow.1
  valueByLabel (label : String) (t : SqlType) (e : Failure) :
    (c.valueByLabel label t).1 = .error e → e.isTransient = false →
    (c.valueByLabel label t).2.wasNull = c.wasNull ∧
      (c.valueByLabel label t).2.currentRow.1 = c.currentRow.1

lemma Blind.failsAside (hE : Blind E) (c : Cursor σ) : FailsAside c := by
  have hvalue (i : Nat) (t : SqlType) (e : Failure) (h : (c.value i t).1 = .error e)
      (he : e.isTransient = false) :
      (c.value i t).2.wasNull = c.wasNull ∧ (c.value i t).2.currentRow.1 = c.currentRow.1 := by
    refine ⟨wasNull_of_value_eq_error h he, ?_⟩
    have hlike := still_value hE.still (hE.refl_cursor c) (by rw [h]; exact he)
    exact (currentRow_alike (n := 0) hE.alike hlike).fst_eq.symm
  refine ⟨hvalue, ?_⟩
  intro label t e h he
  rw [Cursor.valueByLabel] at h ⊢
  split
  next i hi =>
    rw [hi] at h
    exact hvalue i t e h he
  · exact ⟨rfl, rfl⟩

end Failing

/-! ### Sessions in two runs -/

namespace Rechosen

variable {σ τ : Type} [RowSource σ] [RowSource τ] {E : σ → τ → Prop} {c : Cursor σ} {d : Cursor τ}

lemma reply_eq (hE : AnswerAlike fun _ => E) (h : c.Rechosen E d) {r : ClientRequest}
    (hr : r ≠ .call .wasNull) : (c.serve r).1 = (d.serve r).1 := by
  obtain ⟨P, h⟩ := h
  exact LikeBy.reply_eq (hE.showsOnly P) (Merger.stepAlike_rechosen hE) h hr

lemma readAlike (hE : AnswerAlike fun _ => E) (h : c.Rechosen E d) : ReadAlike c d := by
  obtain ⟨P, h⟩ := h
  exact LikeBy.readAlike (hE.showsOnly P) h

/-- A session of another run that reads goes on like the one that only moves. -/
lemma serveAll_moves (hE : AnswerAlike fun _ => E) (hstill : Still E) (h : c.Rechosen E d)
    {rs : List ClientRequest} (hlost : ∀ a ∈ (d.serveAll rs).1, a.isLost = false) :
    (c.serveAll (rs.filter (·.isMove))).1 = (d.serveAll rs).1.filter (·.isMove) ∧
      (c.serveAll (rs.filter (·.isMove))).2.Rechosen E (d.serveAll rs).2 := by
  obtain ⟨P, h⟩ := h
  obtain ⟨hreplies, hlike⟩ := Cursor.serveAll_moves (hE.showsOnly P) (hstill.showsOnly P)
    (Merger.stepAlike_rechosen hE) h hlost
  exact ⟨hreplies, P, hlike⟩

end Rechosen

/-! ### Sessions that differ in what they read -/

variable {σ : Type} [RowSource σ] {E : σ → σ → Prop} {c d : Cursor σ}

/-- What two sessions on cursors of two runs have in common if they differ only in what they
read. -/
structure SameMoves (c d : Cursor σ) (rs₁ rs₂ : List ClientRequest) : Prop where
  moves : (c.serveAll rs₁).1.filter (·.isMove) = (d.serveAll rs₂).1.filter (·.isMove)
  /-- The same request after the same moves has the same reply. -/
  replies (p₁ q₁ p₂ q₂ : List ClientRequest) (r : ClientRequest) : rs₁ = p₁ ++ r :: q₁ →
    rs₂ = p₂ ++ r :: q₂ → p₁.filter (·.isMove) = p₂.filter (·.isMove) → r ≠ .call .wasNull →
    (c.serveAll rs₁).1[p₁.length]? = (d.serveAll rs₂).1[p₂.length]?
  /-- What can be read behind both sessions is the same, even if it fails. -/
  readAlike : ReadAlike (c.serveAll rs₁).2 (d.serveAll rs₂).2
  failsAside : FailsAside (c.serveAll rs₁).2

lemma mem_drop_iff_of_moves {p₁ p₂ : List ClientRequest}
    (h : p₁.filter (·.isMove) = p₂.filter (·.isMove)) :
    .call .drop ∈ p₁ ↔ .call .drop ∈ p₂ := by
  have hiff (p : List ClientRequest) :
      .call .drop ∈ p ↔ ClientRequest.call .drop ∈ p.filter (·.isMove) := by
    rw [List.mem_filter]
    exact ⟨fun hp => ⟨hp, rfl⟩, fun hp => hp.1⟩
  rw [hiff p₁, hiff p₂, h]

/-- Sessions with the same moves lead to cursors that are both other runs of a third one. -/
lemma Blind.exists_rechosen (hE : Blind E) (h : c.Rechosen E d) {rs₁ rs₂ : List ClientRequest}
    (hmoves : rs₁.filter (·.isMove) = rs₂.filter (·.isMove))
    (hlost₁ : ∀ a ∈ (c.serveAll rs₁).1, a.isLost = false)
    (hlost₂ : ∀ a ∈ (d.serveAll rs₂).1, a.isLost = false) :
    (c.serveAll rs₁).1.filter (·.isMove) = (d.serveAll rs₂).1.filter (·.isMove) ∧
      ∃ c₀ : Cursor σ, c₀.Rechosen E (c.serveAll rs₁).2 ∧ c₀.Rechosen E (d.serveAll rs₂).2 := by
  obtain ⟨hreplies₁, hlike₁⟩ :=
    (Rechosen.refl hE.refl c).serveAll_moves hE.alike hE.still hlost₁
  obtain ⟨hreplies₂, hlike₂⟩ := h.serveAll_moves hE.alike hE.still hlost₂
  rw [hmoves] at hreplies₁ hlike₁
  exact ⟨hreplies₁.symm.trans hreplies₂, _, hlike₁, hlike₂⟩

lemma Blind.reply_eq (hE : Blind E) (h : c.Rechosen E d) {p₁ q₁ p₂ q₂ : List ClientRequest}
    {r : ClientRequest} (hmoves : p₁.filter (·.isMove) = p₂.filter (·.isMove))
    (hr : r ≠ .call .wasNull)
    (hlost₁ : ∀ a ∈ (c.serveAll (p₁ ++ r :: q₁)).1, a.isLost = false)
    (hlost₂ : ∀ a ∈ (d.serveAll (p₂ ++ r :: q₂)).1, a.isLost = false) :
    (c.serveAll (p₁ ++ r :: q₁)).1[p₁.length]? = (d.serveAll (p₂ ++ r :: q₂)).1[p₂.length]? := by
  obtain ⟨-, c₀, hlike₁, hlike₂⟩ := hE.exists_rechosen h hmoves
    (fun a ha => hlost₁ a ((serveAll_prefix_append p₁ (r :: q₁)).subset ha))
    (fun a ha => hlost₂ a ((serveAll_prefix_append p₂ (r :: q₂)).subset ha))
  rw [getElem?_serveAll, getElem?_serveAll, ← hlike₁.reply_eq hE.alike hr,
    ← hlike₂.reply_eq hE.alike hr]
  simp only [mem_drop_iff_of_moves hmoves]

/-- Two sessions that make the same moves have the same answers to them, and read the same wherever
they are, as long as no read loses its source. A read that fails leaves the row as it is. The sources
are leaves in memory that may fail, nested to any depth. The sessions are on one cursor, or on those
of two runs that may choose otherwise among equal keys where no group column shows cells that are
rounded against each other. -/
theorem sameMoves_of_filter_eq {n : Nat} {c d : Cursor (Nested ScriptedSource n)}
    (hcd : c.Rechosen (Nested.Rechosen n) d) {rs₁ rs₂ : List ClientRequest}
    (hmoves : rs₁.filter (·.isMove) = rs₂.filter (·.isMove))
    (hlost₁ : ∀ a ∈ (c.serveAll rs₁).1, a.isLost = false)
    (hlost₂ : ∀ a ∈ (d.serveAll rs₂).1, a.isLost = false) : SameMoves c d rs₁ rs₂ := by
  have hE := Nested.blind_rechosen n
  obtain ⟨hreplies, c₀, hlike₁, hlike₂⟩ := hE.exists_rechosen hcd hmoves hlost₁ hlost₂
  constructor
  case moves => exact hreplies
  case replies =>
    rintro p₁ q₁ p₂ q₂ r rfl rfl hbefore hr
    exact hE.reply_eq hcd hbefore hr hlost₁ hlost₂
  case readAlike =>
    exact (hlike₁.readAlike hE.alike).eucl (hlike₂.readAlike hE.alike)
  case failsAside => exact hE.failsAside _

/-- A leaf with two rows, the first of which is no number. -/
def wordLeaf : ScriptedSource where
  memory := { labels := ["k"], rows := [[.text "a"], [.text "7"]] }

/-- Two moves, with reads of the first row in between. -/
def tryingNumbers : List ClientRequest :=
  [.call .advance, .columnIndex "k", .call (.value 1 .int64), .call .wasNull, .call .advance]

/-- A row that cannot be read as a number is no hindrance to the next one. -/
theorem sameMoves_of_failed_coercion :
    ∃ (inner : Cursor (Nested ScriptedSource 0)) (c : Cursor (Nested ScriptedSource 1)),
      merge {} {} [wordLeaf] = .ok inner ∧ merge {} {} [.inr inner] = .ok c ∧
        (c.serveAll tryingNumbers).1.filter (·.isMove) =
          (c.serveAll [.call .advance, .call .advance]).1.filter (·.isMove) ∧
        ReadAlike (c.serveAll tryingNumbers).2 (c.serveAll [.call .advance, .call .advance]).2 := by
  obtain ⟨inner, hinner⟩ : ∃ c : Cursor (Nested ScriptedSource 0),
      merge {} {} [wordLeaf] = .ok c := ⟨_, rfl⟩
  obtain ⟨c, hc⟩ : ∃ c : Cursor (Nested ScriptedSource 1), merge {} {} [.inr inner] = .ok c := by
    cases hinner
    exact ⟨_, rfl⟩
  have hmoves : tryingNumbers.filter (·.isMove) =
      [ClientRequest.call .advance, .call .advance].filter (·.isMove) := rfl
  have htried : ∀ a ∈ (c.serveAll tryingNumbers).1, a.isLost = false := by
    cases hinner
    cases hc
    decide
  have hmoved : ∀ a ∈ (c.serveAll [.call .advance, .call .advance]).1, a.isLost = false := by
    cases hinner
    cases hc
    decide
  have hsame := sameMoves_of_filter_eq (Cursor.Rechosen.refl (Nested.blind_rechosen 1).refl c) hmoves
    htried hmoved
  exact ⟨inner, c, hinner, hc, hsame.moves, hsame.readAlike⟩

end Cursor

end Confluence
