import Confluence.Proofs.Merge.Fronts
import Confluence.Proofs.Merge.Lifecycle
import Confluence.Proofs.Merge.Runs
import Confluence.Proofs.Source.Progress

/-!
# How far an ordered merge moved its leaves

The rows that a merge over leaves came to tell how often each leaf was advanced. In the ordered
merge a shard is one step ahead of the rows that went out from it, unless its row went out last, and
the heads are the rows that wait there.
-/

namespace Confluence

/-! ### Rows that went out -/

/-- The row that a merge over leaves is on, with the number of its shard. -/
def Merger.numberedRow? (m : Merger) (ss : List (Shard ScriptedSource)) : Option (Row × Nat) :=
  match m.current with
  | some (.shard k) =>
    match ss[k]? with
    | some s => s.source.memory.current.toOption.map (·, k)
    | none => none
  | some (.row _) | none => none

lemma Merger.numberedRow?_eq {m : Merger} {ss : List (Shard ScriptedSource)} {x : Row × Nat}
    {a : ScriptedSource} {s : Shard ScriptedSource} {p : Nat}
    (hcurrent : m.current = some (.shard x.2)) (hs : ss[x.2]? = some s)
    (hstepped : Stepped a x.2 (p + 1) s) (hr : a.memory.rows[p]? = some x.1) :
    m.numberedRow? ss = some x := by
  simp only [numberedRow?, hcurrent, hs, hstepped.current_eq hr]
  rfl

/-- The rows in a log that are those of shard number `k`. -/
def rowsOf (k : Nat) (log : List (Row × Nat)) : List Row := (log.filter (·.2 == k)).map (·.1)

/-- The row of shard number `k` that comes next, if the rows in a log went out. -/
def ScriptedSource.nextRow? (a : ScriptedSource) (k : Nat) (log : List (Row × Nat)) : Option Row :=
  a.memory.rows[(rowsOf k log).length]?

lemma prefix_append_singleton {α : Type} {xs ys : List α} {y : α} (h : xs <+: ys)
    (hy : ys[xs.length]? = some y) : xs ++ [y] <+: ys := by
  obtain ⟨zs, rfl⟩ := h
  rw [List.getElem?_append_right (Nat.le_refl _), Nat.sub_self] at hy
  cases zs with
  | nil => cases hy
  | cons z zs =>
    obtain rfl : z = y := Option.some.inj hy
    exact ⟨zs, (List.append_cons xs z zs).symm⟩

/-- What a merge keeps of the rows that it came to while it is moved on and its shards are read, and
what holds of them at its end. -/
structure Merger.Paces (I : List (Row × Nat) → Merger → List (Shard ScriptedSource) → Prop)
    (E : List (Row × Nat) → Merger → Prop) : Prop where
  advance {log : List (Row × Nat)} {m : Merger} {ss : List (Shard ScriptedSource)} : I log m ss →
    Leaves (fun b t => I (log ++ if b then (t.1.numberedRow? t.2).toList else []) t.1 t.2 ∧
      (b = false → E log t.1)) (fun _ _ => True) (m.advance ss)
  rests {log : List (Row × Nat)} {m : Merger} {ss ss' : List (Shard ScriptedSource)} : I log m ss →
    List.Forall₂ (Shard.Like ScriptedSource.Rests) ss ss' → I log m ss'

lemma rowsOf_append_self (log : List (Row × Nat)) (x : Row × Nat) :
    rowsOf x.2 (log ++ [x]) = rowsOf x.2 log ++ [x.1] := by
  simp [rowsOf]

lemma rowsOf_append_of_ne (log : List (Row × Nat)) {x : Row × Nat} {k : Nat} (h : x.2 ≠ k) :
    rowsOf k (log ++ [x]) = rowsOf k log := by
  simp [rowsOf, h]

/-! ### Shards in front of their next rows -/

/-- Of shards over leaves the rows in `log` went out. A shard that is ahead was moved to its next
row, and this row waits, if there is one. -/
structure Fronted (sources : List ScriptedSource) (ahead : Nat → Bool)
    (waiting log : List (Row × Nat)) (ss : List (Shard ScriptedSource)) : Prop where
  length_eq : ss.length = sources.length
  number_lt : ∀ x ∈ waiting, x.2 < sources.length
  emitted {k : Nat} {a : ScriptedSource} : sources[k]? = some a → rowsOf k log <+: a.memory.rows
  waits {k : Nat} {a : ScriptedSource} : sources[k]? = some a → waiting.filter (·.2 == k) =
    if ahead k then (a.nextRow? k log).toList.map (·, k) else []
  stepped {k : Nat} {a : ScriptedSource} {s : Shard ScriptedSource} : sources[k]? = some a →
    ss[k]? = some s → Stepped a k ((rowsOf k log).length + if ahead k then 1 else 0) s

namespace Fronted

variable {sources : List ScriptedSource} {ahead : Nat → Bool} {waiting log : List (Row × Nat)}
  {ss : List (Shard ScriptedSource)} {k : Nat} {a : ScriptedSource} {s : Shard ScriptedSource}

/-- Which of the shards that there are not are ahead makes no difference. -/
lemma congr {ahead' : Nat → Bool} (h : Fronted sources ahead waiting log ss)
    (hahead : ∀ k < sources.length, ahead k = ahead' k) :
    Fronted sources ahead' waiting log ss where
  length_eq := h.length_eq
  number_lt := h.number_lt
  emitted := h.emitted
  waits ha := by
    rw [← hahead _ (List.getElem?_eq_some_iff.mp ha).1]
    exact h.waits ha
  stepped ha hs := by
    rw [← hahead _ (List.getElem?_eq_some_iff.mp ha).1]
    exact h.stepped ha hs

lemma rests {ss' : List (Shard ScriptedSource)} (h : Fronted sources ahead waiting log ss)
    (hlike : List.Forall₂ (Shard.Like ScriptedSource.Rests) ss ss') :
    Fronted sources ahead waiting log ss' where
  length_eq := hlike.length_eq.symm.trans h.length_eq
  number_lt := h.number_lt
  emitted := h.emitted
  waits := h.waits
  stepped ha hs := by
    obtain ⟨s, hs', hlike'⟩ := exists_of_forall₂_getElem? hlike hs
    exact (h.stepped ha hs').of_like hlike'

/-- A row that waits is the next one of its shard. -/
lemma nextRow?_of_mem (h : Fronted sources ahead waiting log ss) {x : Row × Nat}
    (hx : x ∈ waiting) (ha : sources[x.2]? = some a) : a.nextRow? x.2 log = some x.1 := by
  have hmem : x ∈ waiting.filter (·.2 == x.2) := List.mem_filter.mpr ⟨hx, beq_self_eq_true x.2⟩
  rw [h.waits ha] at hmem
  split at hmem
  · obtain ⟨r, hr, heq⟩ := List.mem_map.mp hmem
    rw [Option.mem_toList.mp hr, ← heq]
  · cases hmem

/-- The next row of a shard that is ahead waits. -/
lemma mem_of_nextRow? (h : Fronted sources ahead waiting log ss) (hk : ahead k = true)
    (ha : sources[k]? = some a) {r : Row} (hr : a.nextRow? k log = some r) : (r, k) ∈ waiting := by
  have hwaits := h.waits ha
  rw [if_pos hk, hr] at hwaits
  have hmem : (r, k) ∈ waiting.filter (·.2 == k) := hwaits ▸ List.mem_singleton.mpr rfl
  exact (List.mem_filter.mp hmem).1

/-- A shard that was not ahead is moved to its next row. -/
lemma move {s' : Shard ScriptedSource} (h : Fronted sources ahead waiting log ss)
    (ha : sources[k]? = some a) (hk : ahead k = false)
    (hs' : Stepped a k ((rowsOf k log).length + 1) s') :
    Fronted sources (Function.update ahead k true)
      ((a.nextRow? k log).toList.map (·, k) ++ waiting) log (ss.set k s') where
  length_eq := List.length_set.trans h.length_eq
  number_lt x hx := by
    rcases List.mem_append.mp hx with hx | hx
    · obtain ⟨r, -, rfl⟩ := List.mem_map.mp hx
      exact (List.getElem?_eq_some_iff.mp ha).1
    · exact h.number_lt x hx
  emitted := h.emitted
  waits {j b} hb := by
    rw [List.filter_append]
    by_cases hj : j = k
    · subst hj
      obtain rfl : b = a := Option.some.inj (hb.symm.trans ha)
      rw [h.waits ha, hk, Function.update_self, if_neg Bool.false_ne_true, List.append_nil,
        if_pos rfl, List.filter_eq_self]
      intro x hx
      obtain ⟨r, -, rfl⟩ := List.mem_map.mp hx
      exact beq_self_eq_true _
    · rw [h.waits hb, Function.update_of_ne hj]
      refine (congrArg (· ++ _) (List.filter_eq_nil_iff.mpr fun x hx => ?_)).trans
        (List.nil_append _)
      obtain ⟨r, -, rfl⟩ := List.mem_map.mp hx
      exact fun heq => hj (beq_iff_eq.mp heq).symm
  stepped {j b t} hb ht := by
    by_cases hj : j = k
    · subst hj
      obtain rfl : b = a := Option.some.inj (hb.symm.trans ha)
      have hlt : j < ss.length := h.length_eq ▸ (List.getElem?_eq_some_iff.mp ha).1
      obtain rfl : s' = t := Option.some.inj ((List.getElem?_set_self hlt).symm.trans ht)
      rwa [Function.update_self, if_pos rfl]
    · rw [List.getElem?_set_ne (Ne.symm hj)] at ht
      rw [Function.update_of_ne hj]
      exact h.stepped hb ht

/-- Pushing the head of a shard that was not ahead. -/
lemma pushHead {m : OrderedMerge} (h : Fronted sources ahead waiting log ss)
    (hheads : m.heads = waiting.map (Head.ofFront m.order)) (ha : sources[k]? = some a)
    (hs : ss[k]? = some s) (hk : ahead k = false) :
    Leaves (fun _ t => ∃ g waiting', t.1 = { m with
        guard := g, heads := waiting'.map (Head.ofFront m.order) } ∧
        Fronted sources (Function.update ahead k true) waiting' log (ss.set k t.2))
      (fun _ _ => True) (m.pushHead s) := by
  have hstepped := h.stepped ha hs
  rw [hk, if_neg Bool.false_ne_true, Nat.add_zero] at hstepped
  have hadv := hstepped.advance (h.emitted ha).length_le
  rw [OrderedMerge.pushHead]
  split
  next e s₁ hs₁ => exact trivial
  next s₁ hs₁ =>
    obtain ⟨hlt, h₁⟩ := hadv.of_eq_ok hs₁
    have hnone : a.nextRow? k log = none :=
      List.getElem?_eq_none_iff.mpr (Nat.not_lt.mp (of_decide_eq_false hlt.symm))
    refine ⟨m.guard, waiting, by rw [← hheads], ?_⟩
    have hmove := h.move ha hk h₁
    rwa [hnone] at hmove
  next s₁ hs₁ =>
    obtain ⟨hlt, h₁⟩ := hadv.of_eq_ok hs₁
    obtain ⟨r, hr⟩ : ∃ r, a.memory.rows[(rowsOf k log).length]? = some r :=
      ⟨_, List.getElem?_eq_getElem (of_decide_eq_true hlt.symm)⟩
    have hnext : a.nextRow? k log = some r := hr
    have hread := h₁.readColumns hr m.order.columns
    split
    next e s₂ hs₂ => exact trivial
    next key s₂ hs₂ =>
      obtain ⟨hkey, h₂⟩ := hread.of_eq_ok hs₂
      split
      · exact trivial
      next g hg =>
        have hmove := h.move ha hk h₂
        rw [hnext] at hmove
        refine ⟨g, _, ?_, hmove⟩
        have hkeyOf : m.order.columns.map r.cell = m.order.keyOf r := List.map_map
        rw [hheads, hkey, h₂.number_eq, hkeyOf]
        rfl

/-- Pushing the heads of all shards behind some that are ahead. -/
lemma pushHeads {m : OrderedMerge} {pre rest : List (Shard ScriptedSource)}
    (h : Fronted sources (fun k => decide (k < pre.length)) waiting log (pre ++ rest))
    (hheads : m.heads = waiting.map (Head.ofFront m.order)) :
    Leaves (fun _ t => ∃ g waiting', t.1 = { m with
        guard := g, heads := waiting'.map (Head.ofFront m.order) } ∧
        Fronted sources (fun _ => true) waiting' log (pre ++ t.2))
      (fun _ _ => True) (m.pushHeads rest) := by
  induction rest generalizing pre m waiting with
  | nil =>
    refine ⟨m.guard, waiting, by rw [← hheads], h.congr fun k hk => decide_eq_true ?_⟩
    rwa [← h.length_eq, List.append_nil] at hk
  | cons s rest ih =>
    have hlt : pre.length < sources.length := by
      rw [← h.length_eq, List.length_append, List.length_cons]
      omega
    have hpush := h.pushHead hheads (List.getElem?_eq_getElem hlt) (getElem?_append_cons rfl)
      (decide_eq_false (Nat.lt_irrefl _))
    rw [OrderedMerge.pushHeads]
    split
    next e m₁ s₁ hs₁ => exact trivial
    next m₁ s₁ hs₁ =>
      obtain ⟨g, waiting₁, rfl, h₁⟩ := hpush.of_eq_ok hs₁
      rw [set_append_cons rfl, List.append_cons] at h₁
      have hahead (k : Nat) : Function.update (fun k => decide (k < pre.length)) pre.length true k =
          decide (k < (pre ++ [s₁]).length) := by
        rw [Function.update_apply, List.length_append, List.length_singleton]
        split
        next hk => exact (decide_eq_true (hk ▸ Nat.lt_succ_self k)).symm
        next hk => exact decide_eq_decide.mpr (by omega)
      let m₁ : OrderedMerge := { m with guard := g, heads := waiting₁.map (Head.ofFront m.order) }
      have hrest := ih (m := m₁) (h₁.congr fun k _ => hahead k) rfl
      rcases hpush' : m₁.pushHeads rest with ⟨e | u, m₂, ss₂⟩
      · exact trivial
      · obtain ⟨g₂, waiting₂, rfl, h₂⟩ := hrest.of_eq_ok hpush'
        refine ⟨g₂, waiting₂, rfl, ?_⟩
        rwa [← List.append_cons] at h₂

/-- The row of one shard that waits goes out, and its shard alone is no longer ahead. -/
lemma take {x : Row × Nat} {waiting' : List (Row × Nat)}
    (h : Fronted sources (fun _ => true) waiting log ss) (hperm : (x :: waiting').Perm waiting) :
    Fronted sources (fun k => decide (some x.2 ≠ some k)) waiting' (log ++ [x]) ss := by
  have hx : x ∈ waiting := hperm.mem_iff.mp List.mem_cons_self
  have hahead {k : Nat} (hk : x.2 ≠ k) : decide (some x.2 ≠ some k) = true :=
    decide_eq_true (mt Option.some.inj hk)
  have hbehind : ¬ decide (some x.2 ≠ some x.2) = true := by simp
  have hfilter (k : Nat) := hperm.filter fun y => y.2 == k
  constructor
  case length_eq => exact h.length_eq
  case number_lt => exact fun y hy => h.number_lt y (hperm.mem_iff.mp (List.mem_cons_of_mem x hy))
  case emitted =>
    intro k a ha
    by_cases hk : x.2 = k
    · subst hk
      rw [rowsOf_append_self]
      exact prefix_append_singleton (h.emitted ha) (h.nextRow?_of_mem hx ha)
    · rw [rowsOf_append_of_ne log hk]
      exact h.emitted ha
  case waits =>
    intro k a ha
    have hwaits := h.waits ha
    rw [if_pos rfl] at hwaits
    have hnext := hfilter k
    rw [hwaits] at hnext
    by_cases hk : x.2 = k
    · subst hk
      rw [h.nextRow?_of_mem hx ha, List.filter_cons, if_pos (beq_self_eq_true x.2)] at hnext
      rw [if_neg hbehind]
      exact (List.cons.inj (List.perm_singleton.mp hnext)).2
    · rw [List.filter_cons, if_neg (mt beq_iff_eq.mp hk)] at hnext
      rw [if_pos (hahead hk), ScriptedSource.nextRow?, rowsOf_append_of_ne log hk]
      rw [ScriptedSource.nextRow?] at hnext
      cases hr : a.memory.rows[(rowsOf k log).length]? <;> rw [hr] at hnext
      · exact List.perm_nil.mp hnext
      · exact List.perm_singleton.mp hnext
  case stepped =>
    intro k a s ha hs
    have hstepped := h.stepped ha hs
    rw [if_pos rfl] at hstepped
    by_cases hk : x.2 = k
    · subst hk
      rw [if_neg hbehind, rowsOf_append_self, List.length_append, List.length_singleton]
      exact hstepped
    · rw [if_pos (hahead hk), rowsOf_append_of_ne log hk]
      exact hstepped

end Fronted

/-! ### The ordered merge -/

namespace OrderedMerge

/-- Whether a shard was moved on since its latest row went out. -/
def isAhead (m : OrderedMerge) (k : Nat) : Bool := m.started && decide (m.current ≠ some k)

/-- An ordered merge over leaves that came to the rows in `log`. -/
structure Pace (o : RowOrder) (sources : List ScriptedSource) (log : List (Row × Nat))
    (m : OrderedMerge) (ss : List (Shard ScriptedSource)) : Prop where
  order_eq : m.order = o
  current_eq : m.started = false → m.current = none
  fronted : ∃ waiting, m.heads = waiting.map (Head.ofFront o) ∧
    Fronted sources m.isAhead waiting log ss

variable {o : RowOrder} {sources : List ScriptedSource} {log : List (Row × Nat)} {m : OrderedMerge}
  {ss : List (Shard ScriptedSource)}

/-- Once it was refilled, all shards of a merge are ahead. -/
lemma Pace.refill (h : m.Pace o sources log ss) :
    Leaves (fun _ t => t.1.order = o ∧ t.1.started = true ∧ t.1.current = none ∧
        ∃ waiting, t.1.heads = waiting.map (Head.ofFront o) ∧
          Fronted sources (fun _ => true) waiting log t.2)
      (fun _ _ => True) (m.refill ss) := by
  obtain ⟨rfl, hcurrent, waiting, hheads, hfronted⟩ := h
  rw [OrderedMerge.refill]
  split
  next hstarted =>
    split
    next k hk =>
      rw [pushHeadAt]
      split
      next hnone =>
        refine ⟨rfl, hstarted, rfl, waiting, hheads, hfronted.congr fun j hj => ?_⟩
        have hne : k ≠ j := by
          rintro rfl
          rw [List.getElem?_eq_none_iff, hfronted.length_eq] at hnone
          omega
        rw [isAhead, hstarted, hk, decide_eq_true (mt Option.some.inj hne)]
        rfl
      next s hs =>
        have hlt : k < sources.length := hfronted.length_eq ▸ (List.getElem?_eq_some_iff.mp hs).1
        have hk' : m.isAhead k = false := by rw [isAhead, hk]; simp
        have hpush := hfronted.pushHead (m := { m with current := none }) hheads
          (List.getElem?_eq_getElem hlt) hs hk'
        rcases hpush' : pushHead { m with current := none } s with ⟨e | u, m₁, s₁⟩
        · exact trivial
        · obtain ⟨g, waiting₁, rfl, h₁⟩ := hpush.of_eq_ok hpush'
          refine ⟨rfl, hstarted, rfl, waiting₁, rfl, h₁.congr fun j _ => ?_⟩
          rw [Function.update_apply, isAhead, hstarted, hk]
          split
          · rfl
          next hj => rw [decide_eq_true (mt Option.some.inj (Ne.symm hj))]; rfl
    next hnone =>
      refine ⟨rfl, hstarted, hnone, waiting, hheads, hfronted.congr fun j _ => ?_⟩
      rw [isAhead, hstarted, hnone]
      rfl
  next hstarted =>
    rw [Bool.not_eq_true] at hstarted
    have hbehind (k : Nat) :
        m.isAhead k = decide (k < ([] : List (Shard ScriptedSource)).length) := by
      rw [isAhead, hstarted]
      rfl
    have hpush := Fronted.pushHeads (m := { m with started := true })
      (hfronted.congr fun k _ => hbehind k) hheads
    rcases hpush' : pushHeads { m with started := true } ss with ⟨e | u, m₁, ss₁⟩
    · exact trivial
    · obtain ⟨g, waiting₁, rfl, h₁⟩ := hpush.of_eq_ok hpush'
      exact ⟨rfl, rfl, hcurrent hstarted, waiting₁, rfl, h₁⟩

/-- A row comes next: it is the least of the next rows of all sources, and of equal ones that of the
first source. -/
structure IsNext (o : RowOrder) (sources : List ScriptedSource) (log : List (Row × Nat))
    (x : Row × Nat) : Prop where
  next : ∃ a, sources[x.2]? = some a ∧ a.nextRow? x.2 log = some x.1
  least {k : Nat} {a : ScriptedSource} {r : Row} : sources[k]? = some a →
    a.nextRow? k log = some r → ((o.compareRows x.1 r).then (compare x.2 k)).isLE = true

/-- Moving an ordered merge comes to the least of the next rows, or all rows went out. -/
lemma Pace.advance (hexact : ∀ a ∈ sources, ∀ r ∈ a.memory.rows, o.Exact r)
    (h : m.Pace o sources log ss) :
    Leaves (fun b t => t.1.started = true ∧
        (b = true → ∃ x, t.1.current = some x.2 ∧ IsNext o sources log x ∧
          t.1.Pace o sources (log ++ [x]) t.2) ∧
        (b = false → t.1.current = none ∧ t.1.Pace o sources log t.2 ∧
          ∀ k a, sources[k]? = some a → rowsOf k log = a.memory.rows))
      (fun _ _ => True) (m.advance ss) := by
  have hrefill := h.refill
  rw [OrderedMerge.advance]
  split
  next e m₁ ss₁ hs₁ => exact trivial
  next m₁ ss₁ hs₁ =>
    obtain ⟨ho, hstarted, hcurrent, waiting, hheads, hfronted⟩ := hrefill.of_eq_ok hs₁
    dsimp only at ho hstarted hcurrent hheads hfronted
    split
    next hnil =>
      obtain rfl := List.map_eq_nil_iff.mp (hheads.symm.trans hnil)
      refine ⟨hstarted, fun hb => absurd hb Bool.false_ne_true,
        fun _ => ⟨rfl, ⟨ho, fun _ => rfl, [], hnil, ?_⟩, fun k a ha => ?_⟩⟩
      · refine hfronted.congr fun k _ => ?_
        rw [isAhead, hstarted]
        rfl
      · have hwaits := hfronted.waits ha
        cases hr : a.nextRow? k log with
        | none =>
          rw [ScriptedSource.nextRow?, List.getElem?_eq_none_iff] at hr
          exact (hfronted.emitted ha).eq_of_length_le hr
        | some r =>
          rw [hr] at hwaits
          cases hwaits
    next head heads hcons =>
      obtain ⟨y, ys, rfl, rfl, rfl⟩ := List.map_eq_cons_iff.mp (hheads.symm.trans hcons)
      have hexact' : ∀ x ∈ y :: ys, o.Exact x.1 := by
        intro x hx
        have ha := List.getElem?_eq_getElem (hfronted.number_lt x hx)
        exact hexact _ (List.getElem_mem _) _
          (List.mem_of_getElem? (hfronted.nextRow?_of_mem hx ha))
      obtain ⟨x, waiting, htake, hperm, hle⟩ := Head.takeLeast_map_ofFront hexact'
      have hx : x ∈ y :: ys := hperm.mem_iff.mp List.mem_cons_self
      have ha := List.getElem?_eq_getElem (hfronted.number_lt x hx)
      rw [ho, htake]
      refine ⟨hstarted, fun _ => ⟨x, rfl, ⟨⟨_, ha, hfronted.nextRow?_of_mem hx ha⟩, ?_⟩, rfl, ?_,
        waiting, rfl, ?_⟩, ?_⟩
      · intro k b r hb hr
        have hmem := hfronted.mem_of_nextRow? rfl hb hr
        rw [RowOrder.compareRows_eq_comparePlaces (hexact' x hx) (hexact' _ hmem)]
        rcases List.mem_cons.mp (hperm.mem_iff.mpr hmem) with rfl | hmem
        · have hself : o.compareFronts (r, k) (r, k) = .eq := Std.ReflCmp.compare_self
          exact congrArg Ordering.isLE hself
        · exact hle _ hmem
      · intro hnot
        exact absurd (hstarted.symm.trans hnot) Bool.noConfusion
      · refine (hfronted.take hperm).congr fun k _ => ?_
        rw [isAhead, hstarted]
        rfl
      · rintro ⟨⟩

/-- The shard whose row went out last sits on that row. -/
lemma Pace.exists_stepped {x : Row × Nat} (h : m.Pace o sources (log ++ [x]) ss)
    (hx : IsNext o sources log x) (hcurrent : m.current = some x.2) :
    ∃ a s p, ss[x.2]? = some s ∧ Stepped a x.2 (p + 1) s ∧ a.memory.rows[p]? = some x.1 := by
  obtain ⟨-, -, waiting, -, hfronted⟩ := h
  obtain ⟨a, ha, hr⟩ := hx.next
  have hlt : x.2 < ss.length := hfronted.length_eq ▸ (List.getElem?_eq_some_iff.mp ha).1
  have hstepped := hfronted.stepped ha (List.getElem?_eq_getElem hlt)
  have hbehind : m.isAhead x.2 = false := by rw [isAhead, hcurrent]; simp
  rw [hbehind, rowsOf_append_self, List.length_append] at hstepped
  exact ⟨a, ss[x.2], _, List.getElem?_eq_getElem hlt, hstepped, hr⟩

lemma Pace.numberedRow?_eq {x : Row × Nat} (h : m.Pace o sources (log ++ [x]) ss)
    (hx : IsNext o sources log x) (hcurrent : m.current = some x.2) :
    (Merger.ordered m).numberedRow? ss = some x := by
  obtain ⟨a, s, p, hs, hstepped, hr⟩ := h.exists_stepped hx hcurrent
  exact Merger.numberedRow?_eq (congrArg (·.map RowPlace.shard) hcurrent) hs hstepped hr

/-- An ordered merge over leaves at its end. -/
structure Ended (sources : List ScriptedSource) (log : List (Row × Nat)) (m : OrderedMerge) :
    Prop where
  started : m.started = true
  current_eq : m.current = none
  all {k : Nat} {a : ScriptedSource} : sources[k]? = some a → rowsOf k log = a.memory.rows

/-- An ordered merge over leaves keeps its pace if the sort columns have no floats. -/
theorem paces (hexact : ∀ a ∈ sources, ∀ r ∈ a.memory.rows, o.Exact r) :
    Merger.Paces (fun log m ss => ∃ m', m = .ordered m' ∧ m'.Pace o sources log ss)
      (fun log m => ∃ m', m = .ordered m' ∧ m'.Ended sources log) where
  advance {log m ss} h := by
    obtain ⟨m, rfl, h⟩ := h
    refine Leaves.map (f := fun t : OrderedMerge × List (Shard ScriptedSource) =>
      (Merger.ordered t.1, t.2)) ((h.advance hexact).imp (fun b t ht => ?_) fun _ _ _ => trivial)
    obtain ⟨hstarted, hrow, hend⟩ := ht
    cases b with
    | true =>
      obtain ⟨x, hcurrent, hnext, hpace⟩ := hrow rfl
      refine ⟨⟨t.1, rfl, ?_⟩, Bool.noConfusion⟩
      rw [if_pos rfl, hpace.numberedRow?_eq hnext hcurrent]
      exact hpace
    | false =>
      obtain ⟨hcurrent, hpace, hall⟩ := hend rfl
      rw [if_neg Bool.false_ne_true, List.append_nil]
      exact ⟨⟨t.1, rfl, hpace⟩, fun _ => ⟨t.1, rfl, hstarted, hcurrent, hall _ _⟩⟩
  rests {log m ss ss'} h hlike := by
    obtain ⟨m, rfl, horder, hcurrent, waiting, hheads, hfronted⟩ := h
    exact ⟨m, rfl, horder, hcurrent, waiting, hheads, hfronted.rests hlike⟩

/-- What an ordered merge over leaves did for the rows in `log`: they are the first rows of each
source, every shard but the current one was moved one step further, and each of these that is not
at its end has one head, with the key of the row that it sits on. -/
structure Accounts (sources : List ScriptedSource) (log : List (Row × Nat)) (m : OrderedMerge)
    (ss : List (Shard ScriptedSource)) : Prop where
  length_eq : ss.length = sources.length
  emitted {k : Nat} {a : ScriptedSource} : sources[k]? = some a → rowsOf k log <+: a.memory.rows
  advances {k : Nat} {s : Shard ScriptedSource} : ss[k]? = some s →
    s.source.advances = (rowsOf k log).length + if m.current = some k then 0 else 1
  number_lt : ∀ h ∈ m.heads, h.shard < sources.length
  head {k : Nat} {s : Shard ScriptedSource} : ss[k]? = some s → m.current ≠ some k →
    s.exhausted = false → ∃ r, s.source.memory.current = .ok r ∧
      m.heads.filter (·.shard == k) = [⟨m.order.keyOf r, k⟩]
  no_head {k : Nat} {s : Shard ScriptedSource} : ss[k]? = some s →
    m.current = some k ∨ s.exhausted = true → m.heads.filter (·.shard == k) = []

lemma Pace.accounts (h : m.Pace o sources log ss) (hstarted : m.started = true) :
    m.Accounts sources log ss := by
  obtain ⟨rfl, -, waiting, hheads, hfronted⟩ := h
  have hahead (k : Nat) : m.isAhead k = !decide (m.current = some k) := by
    rw [isAhead, hstarted, Bool.true_and, decide_not]
  have hfilter (k : Nat) : m.heads.filter (·.shard == k) =
      (waiting.filter (·.2 == k)).map (Head.ofFront m.order) := by
    rw [hheads, List.filter_map]
    rfl
  have hsource {k : Nat} {s : Shard ScriptedSource} (hs : ss[k]? = some s) :
      ∃ a, sources[k]? = some a :=
    ⟨_, List.getElem?_eq_getElem (hfronted.length_eq ▸ (List.getElem?_eq_some_iff.mp hs).1)⟩
  constructor
  case length_eq => exact hfronted.length_eq
  case emitted => exact hfronted.emitted
  case advances =>
    intro k s hs
    obtain ⟨a, ha⟩ := hsource hs
    rw [(hfronted.stepped ha hs).advances_eq, hahead]
    by_cases hk : m.current = some k
    · rw [if_pos hk, decide_eq_true hk]
      rfl
    · rw [if_neg hk, decide_eq_false hk]
      rfl
  case number_lt =>
    intro head hhead
    rw [hheads] at hhead
    obtain ⟨x, hx, rfl⟩ := List.mem_map.mp hhead
    exact hfronted.number_lt x hx
  case head =>
    intro k s hs hk hexhausted
    obtain ⟨a, ha⟩ := hsource hs
    have hstepped := hfronted.stepped ha hs
    have hwaits := hfronted.waits ha
    rw [hahead, decide_eq_false hk, Bool.not_false, if_pos rfl] at hstepped hwaits
    rw [hstepped.exhausted_eq, decide_eq_false_iff_not, Nat.not_lt] at hexhausted
    have hr := List.getElem?_eq_getElem hexhausted
    refine ⟨_, hstepped.current_eq hr, ?_⟩
    rw [hfilter, hwaits, ScriptedSource.nextRow?, hr]
    rfl
  case no_head =>
    intro k s hs hnone
    obtain ⟨a, ha⟩ := hsource hs
    have hstepped := hfronted.stepped ha hs
    rw [hfilter, hfronted.waits ha]
    by_cases hk : m.current = some k
    · rw [hahead, decide_eq_true hk]
      rfl
    · have hexhausted := hnone.resolve_left hk
      rw [hahead, decide_eq_false hk, Bool.not_false, if_pos rfl] at hstepped ⊢
      rw [hstepped.exhausted_eq, decide_eq_true_eq] at hexhausted
      rw [ScriptedSource.nextRow?, List.getElem?_eq_none (Nat.le_of_lt_succ hexhausted)]
      rfl

end OrderedMerge

end Confluence
