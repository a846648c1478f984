import Confluence.Source.Scripted
import Confluence.Source.Shard
import Mathlib.Data.List.Forall2
import Mathlib.Tactic.Common

/-!
# Sources that cannot be told apart

Two sources are alike if they answer every call in the same way and stay alike, failures included.
They may be so only for a number of advances: sources that are alike for `n + 1` advances are alike
for `n` advances after one of them. Shards around sources that are alike are alike.
-/

namespace Confluence

variable {σ τ : Type}

/-- Pairs whose first parts are equal and whose second parts are related: equal answers, or equal
failures, that leave related states. -/
structure Agree {α σ τ : Type} (R : σ → τ → Prop) (x : α × σ) (y : α × τ) : Prop where
  fst_eq : x.1 = y.1
  snd : R x.2 y.2

lemma Agree.exists_eq {α σ τ : Type} {R : σ → τ → Prop} {x : α × σ} {y : α × τ}
    (h : Agree R x y) : ∃ a s t, x = (a, s) ∧ y = (a, t) ∧ R s t :=
  ⟨x.1, x.2, y.2, rfl, Prod.ext h.fst_eq.symm rfl, h.snd⟩

/-- Equal answers that leave equal states beside related ones. -/
lemma Agree.exists_eq_beside {α μ σ τ : Type} {R : σ → τ → Prop} {x : α × μ × σ} {y : α × μ × τ}
    (h : Agree (Agree R) x y) : ∃ a m s t, x = (a, m, s) ∧ y = (a, m, t) ∧ R s t :=
  ⟨x.1, x.2.1, x.2.2, y.2.2, rfl, Prod.ext h.fst_eq.symm (Prod.ext h.snd.fst_eq.symm rfl), h.snd.snd⟩

lemma Agree.imp {α σ τ : Type} {R R' : σ → τ → Prop} {x : α × σ} {y : α × τ}
    (h : Agree R x y) (hR : ∀ {s t}, R s t → R' s t) : Agree R' x y :=
  ⟨h.fst_eq, hR h.snd⟩

lemma Agree.flip {α σ τ : Type} {R : σ → τ → Prop} {x : α × σ} {y : α × τ} (h : Agree R x y) :
    Agree (fun t s => R s t) y x := ⟨h.fst_eq.symm, h.snd⟩

lemma Agree.map {γ α α' β β' : Type} {R : α → β → Prop} {R' : α' → β' → Prop}
    {x : γ × α} {y : γ × β} (h : Agree R x y) (f : α → α') (g : β → β')
    (hR : ∀ {s t}, R s t → R' (f s) (g t)) : Agree R' (x.1, f x.2) (y.1, g y.2) :=
  ⟨h.fst_eq, hR h.snd⟩

/-- Whether a read lost its source. -/
def isLost {α : Type} : Except Failure α → Bool
  | .error e => e.isTransient
  | .ok _ => false

/-- Reading makes no difference to what a source is alike to, as long as the source is not lost. -/
structure Still [RowSource τ] (R : σ → τ → Prop) : Prop where
  value {s : σ} {t : τ} {i : Nat} {ty : SqlType} :
    R s t → isLost (RowSource.value t i ty).1 = false → R s (RowSource.value t i ty).2

variable [RowSource σ] [RowSource τ]

/-- Sources that are related for a number of advances answer alike, and reading and closing leaves
them related for as many. -/
structure AnswerAlike (R : Nat → σ → τ → Prop) : Prop where
  mono {n : Nat} {s : σ} {t : τ} : R (n + 1) s t → R n s t
  columnCount {n : Nat} {s : σ} {t : τ} :
    R n s t → RowSource.columnCount s = RowSource.columnCount t
  columnLabel {n : Nat} {s : σ} {t : τ} (i : Nat) :
    R n s t → RowSource.columnLabel s i = RowSource.columnLabel t i
  advance {n : Nat} {s : σ} {t : τ} :
    R (n + 1) s t → Agree (R n) (RowSource.advance s) (RowSource.advance t)
  value {n : Nat} {s : σ} {t : τ} (i : Nat) (ty : SqlType) :
    R n s t → Agree (R n) (RowSource.value s i ty) (RowSource.value t i ty)
  close {n : Nat} {s : σ} {t : τ} :
    R n s t → Agree (R n) (RowSource.close s) (RowSource.close t)

lemma AnswerAlike.flip {R : Nat → σ → τ → Prop} (hR : AnswerAlike R) :
    AnswerAlike fun n t s => R n s t where
  mono h := hR.mono h
  columnCount h := (hR.columnCount h).symm
  columnLabel i h := (hR.columnLabel i h).symm
  advance h := (hR.advance h).flip
  value i ty h := (hR.value i ty h).flip
  close h := (hR.close h).flip

/-! ### Scripted sources -/

namespace MemorySource

lemma advance_lastNull (m : MemorySource) (b : Bool) :
    advance { m with lastNull := b } = (m.advance.1, { m.advance.2 with lastNull := b }) := by
  simp only [advance]
  split
  · rfl
  · split <;> rfl

lemma value_lastNull (m : MemorySource) (b : Bool) (i : Nat) (t : SqlType) :
    (value { m with lastNull := b } i t).1 = (m.value i t).1 := by
  have hread : read { m with lastNull := b } i t = m.read i t := rfl
  simp only [value, hread]
  split <;> rfl

/-- Reading changes nothing but the value read last. -/
lemma exists_value_eq (m : MemorySource) (i : Nat) (t : SqlType) :
    ∃ b, (m.value i t).2 = { m with lastNull := b } := by
  rw [value]
  split
  next c hc => exact ⟨c.isNull, rfl⟩
  · exact ⟨m.lastNull, rfl⟩

end MemorySource

namespace ScriptedSource

/-- Sources that differ at most in the value read last and in the calls they received. -/
structure Like (s t : ScriptedSource) : Prop where
  script_eq : t.script = s.script
  memory_eq : ∃ b, t.memory = { s.memory with lastNull := b }

lemma Like.refl (s : ScriptedSource) : s.Like s := ⟨rfl, s.memory.lastNull, rfl⟩

lemma advance_alike {s t : ScriptedSource} (h : s.Like t) :
    Agree Like s.advance t.advance := by
  obtain ⟨m, _, calls⟩ := s
  obtain ⟨m', script, calls'⟩ := t
  obtain ⟨hscript, b, hmemory⟩ := h
  dsimp only at hscript hmemory
  subst hscript hmemory
  have hadv := m.advance_lastNull b
  rcases hm : m.advance with ⟨r, m₁⟩
  rw [hm] at hadv
  simp only [advance]
  split
  next e he =>
    have he' : advanceFailure? ⟨{ m with lastNull := b }, script, calls'⟩ = some e := he
    rw [he']
    exact ⟨rfl, rfl, b, rfl⟩
  next he =>
    have he' : advanceFailure? ⟨{ m with lastNull := b }, script, calls'⟩ = none := he
    rw [he', hm, hadv]
    rcases r with e | _ | _
    · exact ⟨rfl, rfl, b, rfl⟩
    · exact ⟨rfl, rfl, b, rfl⟩
    · exact ⟨rfl, rfl, b, rfl⟩

lemma value_alike {s t : ScriptedSource} (h : s.Like t) (i : Nat) (ty : SqlType) :
    Agree Like (s.value i ty) (t.value i ty) := by
  obtain ⟨m, _, calls⟩ := s
  obtain ⟨m', script, calls'⟩ := t
  obtain ⟨hscript, b, hmemory⟩ := h
  dsimp only at hscript hmemory
  subst hscript hmemory
  simp only [value]
  split
  next e he =>
    have he' : valueFailure? ⟨{ m with lastNull := b }, script, calls'⟩ i = some e := he
    rw [he']
    exact ⟨rfl, rfl, b, rfl⟩
  next he =>
    have he' : valueFailure? ⟨{ m with lastNull := b }, script, calls'⟩ i = none := he
    rw [he']
    obtain ⟨b₁, h₁⟩ := m.exists_value_eq i ty
    obtain ⟨b₂, h₂⟩ := MemorySource.exists_value_eq { m with lastNull := b } i ty
    refine ⟨(m.value_lastNull b i ty).symm, rfl, b₂, ?_⟩
    simp only [h₁, h₂]

lemma close_alike {s t : ScriptedSource} (h : s.Like t) : Agree Like s.close t.close := by
  obtain ⟨m, _, calls⟩ := s
  obtain ⟨m', script, calls'⟩ := t
  obtain ⟨hscript, b, hmemory⟩ := h
  dsimp only at hscript hmemory
  subst hscript hmemory
  simp only [close]
  split <;> exact ⟨rfl, rfl, b, rfl⟩

theorem answerAlike_like : AnswerAlike fun _ => Like where
  mono h := h
  columnCount {_ s t} h := by
    obtain ⟨-, b, hb⟩ := h
    show s.memory.columnCount = t.memory.columnCount
    rw [hb]
    rfl
  columnLabel {_ s t} i h := by
    obtain ⟨hscript, b, hb⟩ := h
    show s.columnLabel i = t.columnLabel i
    rw [columnLabel, columnLabel, hscript, hb]
    rfl
  advance := advance_alike
  value i ty h := value_alike h i ty
  close := close_alike

lemma Like.value {s t : ScriptedSource} (h : s.Like t) (i : Nat) (ty : SqlType) :
    s.Like (t.value i ty).2 := by
  obtain ⟨hscript, b, hb⟩ := h
  rw [ScriptedSource.value]
  split
  · exact ⟨hscript, b, hb⟩
  · obtain ⟨b', hb'⟩ := t.memory.exists_value_eq i ty
    rw [hb] at hb'
    exact ⟨hscript, b', by rw [hb]; exact hb'⟩

theorem still_like : Still Like where
  value h _ := h.value _ _

end ScriptedSource

/-! ### Sources of either kind -/

section Sum

variable {α β α' β' : Type} [RowSource α'] [RowSource β']

lemma Still.sum {R : α → α' → Prop} {S : β → β' → Prop} (hR : Still R) (hS : Still S) :
    Still (Sum.LiftRel R S) where
  value h hlost := by
    cases h with
    | inl h => exact .inl (hR.value h hlost)
    | inr h => exact .inr (hS.value h hlost)

variable [RowSource α] [RowSource β]

theorem AnswerAlike.sum {R : Nat → α → α' → Prop} {S : Nat → β → β' → Prop}
    (hR : AnswerAlike R) (hS : AnswerAlike S) :
    AnswerAlike fun n => Sum.LiftRel (R n) (S n) where
  mono h := by
    cases h with
    | inl h => exact .inl (hR.mono h)
    | inr h => exact .inr (hS.mono h)
  columnCount h := by
    cases h with
    | inl h => exact hR.columnCount h
    | inr h => exact hS.columnCount h
  columnLabel i h := by
    cases h with
    | inl h => exact hR.columnLabel i h
    | inr h => exact hS.columnLabel i h
  advance h := by
    cases h with
    | inl h => exact (hR.advance h).map Sum.inl Sum.inl .inl
    | inr h => exact (hS.advance h).map Sum.inr Sum.inr .inr
  value i ty h := by
    cases h with
    | inl h => exact (hR.value i ty h).map Sum.inl Sum.inl .inl
    | inr h => exact (hS.value i ty h).map Sum.inr Sum.inr .inr
  close h := by
    cases h with
    | inl h => exact (hR.close h).map Sum.inl Sum.inl .inl
    | inr h => exact (hS.close h).map Sum.inr Sum.inr .inr

end Sum

/-! ### Shards -/

/-- Shards in the same state around related sources. -/
structure Shard.Like (R : σ → τ → Prop) (s : Shard σ) (t : Shard τ) : Prop where
  number_eq : s.number = t.number
  exhausted_eq : s.exhausted = t.exhausted
  closed_eq : s.closed = t.closed
  source : R s.source t.source

namespace Shard

variable {R : Nat → σ → τ → Prop} {n : Nat} {s : Shard σ} {t : Shard τ}

omit [RowSource σ] [RowSource τ] in
lemma Like.imp {R R' : σ → τ → Prop} (h : s.Like R t) (hR : ∀ {s t}, R s t → R' s t) :
    s.Like R' t := ⟨h.number_eq, h.exhausted_eq, h.closed_eq, hR h.source⟩

omit [RowSource σ] [RowSource τ] in
lemma Like.flip {R : σ → τ → Prop} (h : s.Like R t) : t.Like (fun t s => R s t) s :=
  ⟨h.number_eq.symm, h.exhausted_eq.symm, h.closed_eq.symm, h.source⟩

lemma advance_alike (hR : AnswerAlike R) (h : s.Like (R (n + 1)) t) :
    Agree (Like (R n)) s.advance t.advance := by
  obtain ⟨number, source, exhausted, closed⟩ := s
  obtain ⟨number', source', exhausted', closed'⟩ := t
  obtain ⟨rfl, rfl, rfl, hsource⟩ := h
  simp only [advance]
  split
  · exact ⟨rfl, rfl, rfl, rfl, hR.mono hsource⟩
  · obtain ⟨r, s₁, t₁, hs, ht, h₁⟩ := (hR.advance hsource).exists_eq
    rw [hs, ht]
    rcases r with e | _ | _ <;> exact ⟨rfl, rfl, rfl, rfl, h₁⟩

lemma value_alike (hR : AnswerAlike R) (h : s.Like (R n) t) (i : Nat) (ty : SqlType) :
    Agree (Like (R n)) (s.value i ty) (t.value i ty) := by
  obtain ⟨number, source, exhausted, closed⟩ := s
  obtain ⟨number', source', exhausted', closed'⟩ := t
  obtain ⟨rfl, rfl, rfl, hsource⟩ := h
  obtain ⟨r, s₁, t₁, hs, ht, h₁⟩ := (hR.value i ty hsource).exists_eq
  simp only [value, hs, ht]
  rcases r with e | v <;> exact ⟨rfl, rfl, rfl, rfl, h₁⟩

lemma close_alike (hR : AnswerAlike R) (h : s.Like (R n) t) :
    Agree (Like (R n)) s.close t.close := by
  obtain ⟨number, source, exhausted, closed⟩ := s
  obtain ⟨number', source', exhausted', closed'⟩ := t
  obtain ⟨rfl, rfl, rfl, hsource⟩ := h
  obtain ⟨r, s₁, t₁, hs, ht, h₁⟩ := (hR.close hsource).exists_eq
  simp only [close, hs, ht]
  split
  · exact ⟨rfl, rfl, rfl, rfl, hsource⟩
  · exact ⟨rfl, rfl, rfl, rfl, h₁⟩

lemma readColumns_alike (hR : AnswerAlike R) (h : s.Like (R n) t) (columns : List Nat) :
    Agree (Like (R n)) (s.readColumns columns) (t.readColumns columns) := by
  induction columns generalizing s t with
  | nil => exact ⟨rfl, h⟩
  | cons i columns ih =>
    obtain ⟨r, s₁, t₁, hs, ht, h₁⟩ := (value_alike hR h (i + 1) .any).exists_eq
    rw [readColumns, readColumns, hs, ht]
    cases r with
    | error e => exact ⟨rfl, h₁⟩
    | ok v =>
      obtain ⟨r, s₂, t₂, hs', ht', h₂⟩ := (ih h₁).exists_eq
      simp only [hs', ht']
      cases r with
      | error e => exact ⟨rfl, h₂⟩
      | ok vs => exact ⟨rfl, h₂⟩

omit [RowSource σ] in
lemma still_value {R : σ → τ → Prop} (hR : Still R) (h : s.Like R t) {i : Nat} {ty : SqlType}
    (hlost : isLost (t.value i ty).1 = false) : s.Like R (t.value i ty).2 := by
  have hsource := @hR.value s.source t.source i ty h.source
  rw [value] at hlost ⊢
  rcases hv : RowSource.value t.source i ty with ⟨e | c, source⟩ <;> rw [hv] at hlost hsource
  · have hlost' : e.isTransient = false := (e.isTransient_within _).symm.trans hlost
    exact ⟨h.number_eq, h.exhausted_eq, h.closed_eq, hsource hlost'⟩
  · exact ⟨h.number_eq, h.exhausted_eq, h.closed_eq, hsource rfl⟩

end Shard

end Confluence
