import Confluence.Proofs.Merge.Fronts
import Confluence.Proofs.Merge.Runs
import Confluence.Proofs.Sort.Families
import Confluence.Proofs.Source.View

/-!
# The ordered merge draws a stable sort

Each shard has a queue of rows that did not go out yet. Before a row is taken every shard is moved
to the front of its queue, and the heads are the keys of these fronts; after a row was taken its
shard alone is behind. The merge fails exactly if its guard refuses a row, and that happens exactly
if some sort column has values of two families. Otherwise it draws the stable sort of all queues.
-/

namespace Confluence

variable {σ : Type} [RowSource σ] {V : SourceView σ} {o : RowOrder} {all : List Row}

namespace OrderedMerge

/-! ### Refilling -/

/-- What a guard can learn: only of rows in `all`, without forgetting, and of some `rows`. -/
structure Learns (o : RowOrder) (all rows : List Row) (g g' : TypeGuard) : Prop where
  seen : g'.SeenIn o all
  keeps : ∀ r, g.Knows o r → g'.Knows o r
  learned : ∀ r ∈ rows, g'.Knows o r

lemma Learns.trans {g₁ g₂ g₃ : TypeGuard} {rows₁ rows₂ : List Row} (h₁ : Learns o all rows₁ g₁ g₂)
    (h₂ : Learns o all rows₂ g₂ g₃) : Learns o all (rows₁ ++ rows₂) g₁ g₃ where
  seen := h₂.seen
  keeps r h := h₂.keeps r (h₁.keeps r h)
  learned r hr := by
    rcases List.mem_append.mp hr with hr | hr
    · exact h₂.keeps r (h₁.learned r hr)
    · exact h₂.learned r hr

/-- A shard that is moved to the front of its queue adds this front to the heads, unless the guard
refuses it. -/
lemma pushHead_spec {m : OrderedMerge} {k : Nat} {s : Shard σ} {q : List Row}
    (hcols : ∀ c ∈ m.order.columns, c < V.width) (hs : V.Behind k s q) (hq : ∀ r ∈ q, r ∈ all)
    (hseen : m.guard.SeenIn m.order all) :
    (∃ g' s', m.pushHead s = (.ok (), { m with
        guard := g', heads := (fronts k [q]).map (Head.ofFront m.order) ++ m.heads }, s') ∧
        V.AtFront k s' q ∧ Learns m.order all q.head?.toList m.guard g') ∨
      ((∃ e, (m.pushHead s).1 = .error e) ∧ ¬ m.order.Uniform all) := by
  obtain ⟨current, hs⟩ := hs
  cases q with
  | nil =>
    obtain ⟨s', hadv, hs'⟩ := hs.advance_nil
    left
    refine ⟨m.guard, s', ?_, hs', ⟨hseen, fun _ h => h, List.forall_mem_nil _⟩⟩
    rw [pushHead, hadv]
    rfl
  | cons r q =>
    obtain ⟨s₁, hadv, hs₁⟩ := hs.advance_cons
    obtain ⟨s₂, hread, hs₂⟩ := hs₁.readColumns hcols
    have hkey : m.order.columns.map r.cell = m.order.keyOf r := List.map_map
    have hr : r ∈ all := hq r List.mem_cons_self
    rcases ha : m.guard.accept (m.order.keyOf r) with ⟨_ | _, g'⟩
    · right
      refine ⟨?_, fun hu => ?_⟩
      · rw [pushHead, hadv]
        simp [hread, hkey, ha]
      · obtain ⟨g'', ha'⟩ := TypeGuard.exists_accept_eq_ok hu hseen hr
        rw [ha] at ha'
        cases ha'
    · left
      obtain ⟨hknows, hkeep, hsee⟩ :=
        TypeGuard.of_accept_eq_ok (TypeGuard.length_eq_of_seenIn hseen) ha
      refine ⟨g', s₂, ?_, hs₂, ⟨hsee all hr hseen, hkeep, ?_⟩⟩
      · rw [pushHead, hadv]
        simp [hread, hkey, ha, fronts, Head.ofFront, hs₂.number_eq]
      · simpa using hknows

/-- Shards that are moved to the fronts of their queues. -/
lemma pushHeads_spec {m : OrderedMerge} {k : Nat} {ss : List (Shard σ)} {queues : List (List Row)}
    {ps : List (Row × Nat)} (hcols : ∀ c ∈ m.order.columns, c < V.width)
    (hss : Queued V.Behind k ss queues) (hq : ∀ r ∈ queues.flatten, r ∈ all)
    (hseen : m.guard.SeenIn m.order all) (hps : m.heads = ps.map (Head.ofFront m.order)) :
    (∃ (g' : TypeGuard) (ps' : List (Row × Nat)) (ss' : List (Shard σ)),
        m.pushHeads ss = (.ok (), { m with
          guard := g', heads := ps'.map (Head.ofFront m.order) }, ss') ∧
        ps'.Perm (fronts k queues ++ ps) ∧ Queued V.AtFront k ss' queues ∧
        Learns m.order all ((fronts k queues).map (·.1)) m.guard g') ∨
      ((∃ e, (m.pushHeads ss).1 = .error e) ∧ ¬ m.order.Uniform all) := by
  induction hss generalizing m ps with
  | nil =>
    left
    refine ⟨m.guard, ps, [], ?_, List.Perm.refl _, .nil, ⟨hseen, fun _ h => h, ?_⟩⟩
    · rw [pushHeads, ← hps]
    · exact List.forall_mem_nil _
  | @cons k s ss q queues hs _ ih =>
    rw [List.flatten_cons, List.forall_mem_append] at hq
    rcases pushHead_spec hcols hs hq.1 hseen with ⟨g₁, s₁, hpush, hs₁, hg₁⟩ | ⟨⟨e, hpush⟩, hu⟩
    · rw [hps, ← List.map_append] at hpush
      let m₁ : OrderedMerge :=
        { m with guard := g₁, heads := (fronts k [q] ++ ps).map (Head.ofFront m.order) }
      rcases @ih m₁ (fronts k [q] ++ ps) hcols hq.2 hg₁.seen rfl with
        ⟨g₂, ps₂, ss₂, hall, hperm, hss₂, hg₂⟩ | ⟨⟨e, hall⟩, hu⟩
      · left
        refine ⟨g₂, ps₂, s₁ :: ss₂, ?_, ?_, .cons hs₁ hss₂, ?_⟩
        · rw [pushHeads, hpush]
          simp only [m₁] at hall
          simp only [hall]
        · refine hperm.trans ?_
          simp only [fronts, List.append_nil, List.append_assoc]
          exact List.perm_append_comm_assoc _ _ _
        · have := hg₁.trans hg₂
          simpa [fronts, Function.comp_def] using this
      · right
        refine ⟨⟨e, ?_⟩, hu⟩
        rw [pushHeads, hpush]
        exact hall
    · right
      refine ⟨⟨e, ?_⟩, hu⟩
      rcases hp : m.pushHead s with ⟨r, m', s'⟩
      rw [hp] at hpush
      simp only at hpush
      rw [pushHeads, hp, hpush]

/-! ### States of a merge -/

/-- The guard of a merge has seen rows in `all` only, and knows those that left the queues. -/
structure Ledger (o : RowOrder) (all : List Row) (g : TypeGuard) (queues : List (List Row)) :
    Prop where
  within : ∀ r ∈ queues.flatten, r ∈ all
  seen : g.SeenIn o all
  knows : ∀ r ∈ all, g.Knows o r ∨ r ∈ queues.flatten

/-- The heads of a merge are those of some fronts, whose rows its guard knows. -/
structure HeadsOf (m : OrderedMerge) (xs : List (Row × Nat)) : Prop where
  perm : ∃ ps : List (Row × Nat), m.heads = ps.map (Head.ofFront m.order) ∧ ps.Perm xs
  knows : ∀ x ∈ xs, m.guard.Knows m.order x.1

/-- A merge whose shards all sit on the fronts of their queues. -/
structure Primed (V : SourceView σ) (o : RowOrder) (all : List Row) (m : OrderedMerge)
    (ss : List (Shard σ)) (queues : List (List Row)) : Prop where
  order_eq : m.order = o
  started : m.started = true
  shards : Queued V.AtFront 0 ss queues
  heads : m.HeadsOf (fronts 0 queues)
  ledger : Ledger o all m.guard queues

/-- A merge between two rows: at the start all shards are behind, and later the one whose row went
out last. -/
inductive Stands (V : SourceView σ) (o : RowOrder) (all : List Row) :
    OrderedMerge → List (Shard σ) → List (List Row) → Prop
  | start {m ss queues} : m.order = o → m.started = false → m.heads = [] →
      Queued V.Behind 0 ss queues → Ledger o all m.guard queues → Stands V o all m ss queues
  | moved {m ss₁ s ss₂ pre q post} : m.order = o → m.started = true →
      m.current = some pre.length → Queued V.AtFront 0 ss₁ pre → ss₁.length = pre.length →
      V.Behind pre.length s q → Queued V.AtFront (pre.length + 1) ss₂ post →
      m.HeadsOf (fronts 0 (pre ++ [] :: post)) → Ledger o all m.guard (pre ++ q :: post) →
      Stands V o all m (ss₁ ++ s :: ss₂) (pre ++ q :: post)

lemma stands_new {ss : List (Shard σ)} {queues : List (List Row)}
    (h : Queued V.Behind 0 ss queues) : Stands V o queues.flatten (new o) ss queues :=
  .start rfl rfl rfl h ⟨fun _ h => h, TypeGuard.seenIn_new o _, fun _ h => Or.inr h⟩

lemma Ledger.learns {g g' : TypeGuard} {queues : List (List Row)} {rows : List Row}
    (h : Ledger o all g queues) (hg : Learns o all rows g g') : Ledger o all g' queues where
  within := h.within
  seen := hg.seen
  knows r hr := (h.knows r hr).imp_left (hg.keeps r)

/-- A row that leaves the queues has to be known. -/
lemma Ledger.take {g : TypeGuard} {pre post : List (List Row)} {r : Row} {q : List Row}
    (h : Ledger o all g (pre ++ (r :: q) :: post)) (hr : g.Knows o r) :
    Ledger o all g (pre ++ q :: post) where
  within r' hr' := by
    apply h.within
    simp only [List.flatten_append, List.flatten_cons, List.mem_append] at hr' ⊢
    exact hr'.imp_right (Or.imp_left (List.mem_cons_of_mem r))
  seen := h.seen
  knows r' hr' := by
    by_cases heq : r' = r
    · left
      rw [heq]
      exact hr
    · refine (h.knows r' hr').imp_right fun hmem => ?_
      simpa [heq] using hmem

/-- The head of the shard that was behind makes the heads complete. -/
lemma HeadsOf.push {m : OrderedMerge} {pre post : List (List Row)} {q : List Row} {g : TypeGuard}
    (h : m.HeadsOf (fronts 0 (pre ++ [] :: post)))
    (hg : Learns m.order all q.head?.toList m.guard g) :
    HeadsOf { m with
      current := none, guard := g
      heads := (fronts pre.length [q]).map (Head.ofFront m.order) ++ m.heads }
      (fronts 0 (pre ++ q :: post)) := by
  obtain ⟨⟨ps, hps, hperm⟩, hknows⟩ := h
  refine ⟨⟨fronts pre.length [q] ++ ps, ?_, ?_⟩, ?_⟩
  · rw [List.map_append, ← hps]
  · refine (hperm.append_left _).trans ?_
    simp only [fronts_append, fronts, List.append_nil, List.nil_append, Nat.zero_add,
      Option.toList_none, List.head?_nil, List.map_nil]
    exact List.perm_append_comm_assoc _ _ _
  · intro x hx
    rw [fronts_append, fronts, Nat.zero_add] at hx hknows
    simp only [List.mem_append, List.head?_nil, Option.toList_none, List.map_nil,
      List.nil_append] at hx hknows
    rcases hx with hx | hx | hx
    · exact hg.keeps _ (hknows x (Or.inl hx))
    · obtain ⟨r, hr, rfl⟩ := List.mem_map.mp hx
      exact hg.learned r hr
    · exact hg.keeps _ (hknows x (Or.inr hx))

/-- Refilling moves every shard to the front of its queue, unless some column mixes families. -/
lemma refill_spec {m : OrderedMerge} {ss : List (Shard σ)} {queues : List (List Row)}
    (hcols : ∀ c ∈ o.columns, c < V.width) (h : Stands V o all m ss queues) :
    (∃ m' ss', m.refill ss = (.ok (), m', ss') ∧ Primed V o all m' ss' queues) ∨
      ((∃ e, (m.refill ss).1 = .error e) ∧ ¬ o.Uniform all) := by
  cases h with
  | start ho hstarted hheads hss hledger =>
    subst ho
    have hps : { m with started := true }.heads = ([] : List (Row × Nat)).map
      (Head.ofFront m.order) := hheads
    rw [refill, hstarted]
    rcases pushHeads_spec (m := { m with started := true }) hcols hss hledger.within hledger.seen
      hps with ⟨g, ps, ss', hpush, hperm, hss', hg⟩ | hfail
    · left
      refine ⟨_, ss', hpush, rfl, rfl, hss', ⟨⟨ps, rfl, ?_⟩, ?_⟩, hledger.learns hg⟩
      · rwa [List.append_nil] at hperm
      · intro x hx
        exact hg.learned _ (List.mem_map_of_mem hx)
    · exact Or.inr hfail
  | @moved ss₁ s ss₂ pre q post ho hstarted hcurrent hss₁ hlen hs hss₂ hheads hledger =>
    subst ho
    have hq (r : Row) (hr : r ∈ q) : r ∈ all := hledger.within r (by simp [hr])
    rw [refill, if_pos hstarted, hcurrent]
    rcases pushHead_spec (m := { m with current := none }) hcols hs hq hledger.seen with
      ⟨g, s', hpush, hs', hg⟩ | ⟨⟨e, hpush⟩, hu⟩
    · left
      let heads := (fronts pre.length [q]).map (Head.ofFront m.order) ++ m.heads
      refine ⟨{ m with current := none, guard := g, heads }, ss₁ ++ s' :: ss₂, ?_, rfl, hstarted,
        ?_, hheads.push hg, hledger.learns hg⟩
      · simp only [pushHeadAt, getElem?_append_cons hlen, hpush, set_append_cons hlen]
        rfl
      · refine hss₁.append ?_
        rw [Nat.zero_add]
        exact .cons hs' hss₂
    · right
      refine ⟨⟨e, ?_⟩, hu⟩
      simpa [pushHeadAt, getElem?_append_cons hlen] using hpush

/-! ### Taking a row -/

/-- A row is the first of the least in some queues: it stands at the front of one of them, the
fronts before it are greater, and those behind it are not less. -/
structure Foremost (o : RowOrder) (pre : List (List Row)) (r : Row) (post : List (List Row)) :
    Prop where
  before : ∀ q ∈ pre, ∀ b ∈ q.head?, o.comparePlaces r b = .lt
  behind : ∀ q ∈ post, ∀ b ∈ q.head?, (o.comparePlaces r b).isLE

/-- What moving a merge over some queues can be: it fails, and then some column mixes families; it
is at the end of all queues, and then no column does; or it comes to the first of the least rows. -/
inductive Moves (V : SourceView σ) (o : RowOrder) (all : List Row) (queues : List (List Row))
    (m : OrderedMerge) (ss : List (Shard σ)) : Prop
  | refused {e} : (m.advance ss).1 = .error e → ¬ o.Uniform all → Moves V o all queues m ss
  | ended : (m.advance ss).1 = .ok false → queues.flatten = [] → o.Uniform all →
      Moves V o all queues m ss
  | row {pre r q post m' ss'} : m.advance ss = (.ok true, m', ss') →
      (Merger.ordered m').Sits V r (fun ss => Stands V o all m' ss (pre ++ q :: post)) ss' →
      queues = pre ++ (r :: q) :: post → Foremost o pre r post → Moves V o all queues m ss

lemma exact_of_mem_fronts {queues : List (List Row)} (hexact : ∀ r ∈ queues.flatten, o.Exact r)
    {x : Row × Nat} (hx : x ∈ fronts 0 queues) : o.Exact x.1 := by
  obtain ⟨pre, q, post, rfl, -⟩ := mem_fronts_iff.mp hx
  exact hexact x.1 (by simp)

/-- The least head is the front of one of the queues, and its shard sits on that row. However often
it is read, all other shards stay on the fronts of their queues. -/
lemma exists_taken {m : OrderedMerge} {ss : List (Shard σ)} {queues : List (List Row)} {h : Head}
    {hs : List Head} (hexact : ∀ r ∈ all, o.Exact r) (hp : Primed V o all m ss queues)
    (hheads : m.heads = h :: hs) :
    ∃ pre r q post, let least := h.takeLeast m.order hs
      let m' := { m with heads := least.2, current := some least.1.shard }
      (Merger.ordered m').Sits V r (fun ss => Stands V o all m' ss (pre ++ q :: post)) ss ∧
        queues = pre ++ (r :: q) :: post ∧ Foremost o pre r post := by
  obtain ⟨ho, hstarted, hss, ⟨⟨ps, hps, hperm⟩, hknows⟩, hledger⟩ := hp
  subst ho
  cases ps with
  | nil => rw [hheads] at hps; cases hps
  | cons x xs =>
    rw [hheads, List.map_cons, List.cons.injEq] at hps
    obtain ⟨rfl, rfl⟩ := hps
    have hexact' (y : Row × Nat) (hy : y ∈ x :: xs) : m.order.Exact y.1 :=
      exact_of_mem_fronts (fun r hr => hexact r (hledger.within r hr)) (hperm.mem_iff.mp hy)
    obtain ⟨y, ys, htake, hperm', hle⟩ := Head.takeLeast_map_ofFront hexact'
    -- the least head is a front, so its number says which queue it heads
    obtain ⟨pre, q, post, rfl, hy, hys, hpre, hpost⟩ :=
      exists_of_least_front (hperm'.trans hperm) hle
    obtain ⟨ss₁, ss₂, rfl, hlen, hss₁, hss₂⟩ := hss.exists_of_append
    rw [Nat.zero_add] at hss₂
    cases hss₂ with
    | @cons _ s ss₂ _ _ hs hss₂ =>
      refine ⟨pre, y.1, q, post, ?_⟩
      rw [htake]
      intro least m'
      have hcurrent : (Merger.ordered m').current = some (.shard pre.length) :=
        congrArg (fun k => some (RowPlace.shard k)) hy
      refine ⟨.shard hcurrent hlen hs fun s' hs' => ?_, rfl, ⟨hpre, hpost⟩⟩
      have hfront : y ∈ fronts 0 (pre ++ (y.1 :: q) :: post) :=
        hperm.mem_iff.mp (hperm'.mem_iff.mp List.mem_cons_self)
      refine .moved rfl hstarted (congrArg some hy) hss₁ hlen ⟨_, hs'⟩ hss₂ ?_
        (hledger.take (hknows y hfront))
      refine ⟨⟨ys, rfl, hys⟩, fun z hz => hknows z ?_⟩
      have hz' := hys.mem_iff.mpr hz
      exact hperm.mem_iff.mp (hperm'.mem_iff.mp (List.mem_cons_of_mem _ hz'))

/-- Moving a merge to the next row. -/
theorem advance_spec {m : OrderedMerge} {ss : List (Shard σ)} {queues : List (List Row)}
    (hcols : ∀ c ∈ o.columns, c < V.width) (hexact : ∀ r ∈ all, o.Exact r)
    (h : Stands V o all m ss queues) : Moves V o all queues m ss := by
  rcases refill_spec hcols h with ⟨m₁, ss₁, hrefill, hp⟩ | ⟨⟨e, hrefill⟩, hu⟩
  · cases hheads : m₁.heads with
    | nil =>
      have hempty : queues.flatten = [] := by
        obtain ⟨ps, hps, hperm⟩ := hp.heads.perm
        rw [hheads] at hps
        obtain rfl := List.map_eq_nil_iff.mp hps.symm
        exact flatten_eq_nil_of_fronts (List.nil_perm.mp hperm)
      have hknown (r : Row) (hr : r ∈ all) : m₁.guard.Knows o r :=
        (hp.ledger.knows r hr).resolve_right (by simp [hempty])
      refine .ended ?_ hempty (TypeGuard.uniform_of_knows hknown)
      simp only [advance, hrefill, hheads]
    | cons x xs =>
      obtain ⟨pre, r, q, post, hsits, hqueues, hforemost⟩ := exists_taken hexact hp hheads
      refine .row ?_ hsits hqueues hforemost
      simp only [advance, hrefill, hheads]
  · have hadv : (m.advance ss).1 = .error e := by
      rcases hr : m.refill ss with ⟨r, m₁, ss₁⟩
      rw [hr] at hrefill
      simp only at hrefill
      simp only [advance, hr, hrefill]
    exact .refused hadv hu

/-- Queues stay sorted when the front of one of them is taken. -/
lemma sorted_of_taken {R : Row → Row → Prop} {pre post : List (List Row)} {r : Row} {q : List Row}
    (h : ∀ p ∈ pre ++ (r :: q) :: post, p.Pairwise R) : ∀ p ∈ pre ++ q :: post, p.Pairwise R := by
  intro p hp
  rcases List.mem_append.mp hp with hp | hp
  · exact h p (List.mem_append_left _ hp)
  · rcases List.mem_cons.mp hp with rfl | hp
    · exact (List.pairwise_cons.mp (h (r :: p) (by simp))).2
    · exact h p (by simp [hp])

/-- A merge of ordered queues runs to its end exactly if no sort column mixes families, and then it
draws the stable sort of the queues. -/
theorem exists_emits {m : OrderedMerge} {ss : List (Shard σ)} {queues : List (List Row)}
    (hcols : ∀ c ∈ o.columns, c < V.width) (hexact : ∀ r ∈ all, o.Exact r)
    (hsorted : ∀ q ∈ queues, q.Pairwise fun a b => (o.comparePlaces a b).isLE)
    (h : Stands V o all m ss queues) :
    ∃ rows e, (Merger.ordered m).Emits V.width ss rows e ∧ (∀ r ∈ rows, r ∈ queues.flatten) ∧
      (e = none ↔ o.Uniform all) ∧
      (e = none → IsStableSort o.comparePlaces queues.flatten rows) := by
  -- every row drawn leaves its queue, and `Stands` holds again behind it
  induction hn : queues.flatten.length using Nat.strongRecOn generalizing m ss queues with
  | ind n ih =>
    cases advance_spec hcols hexact h with
    | @refused e hadv hu =>
      refine ⟨[], some e, .failed ?_, List.forall_mem_nil _, by simp [hu], by simp⟩
      simp only [Merger.advance, hadv]
    | ended hadv hempty hu =>
      refine ⟨[], none, .ended ?_, List.forall_mem_nil _, by simp [hu], fun _ => ?_⟩
      · simp only [Merger.advance, hadv]
      · rw [hempty]
        exact ⟨List.Perm.refl _, List.Pairwise.nil, by simp⟩
    | @row pre r q post m' ss' hadv hsits hqueues hforemost =>
      subst hqueues
      obtain ⟨ss'', hshows, hstands⟩ := hsits.exists_shows
      have hlen : (pre ++ q :: post).flatten.length < n := by
        simp only [List.flatten_append, List.flatten_cons, List.length_append,
          List.length_cons] at hn ⊢
        omega
      obtain ⟨rows, e, hrun, hmem, he, hsort⟩ := ih _ hlen (sorted_of_taken hsorted) hstands rfl
      have hadv' : (Merger.ordered m).advance ss = (.ok true, .ordered m', ss') := by
        simp only [Merger.advance, hadv]
      refine ⟨r :: rows, e, .row hadv' hshows hrun, ?_, he, fun h => ?_⟩
      · refine List.forall_mem_cons.mpr ⟨by simp, fun r' hr' => ?_⟩
        have := hmem r' hr'
        simp only [List.flatten_append, List.flatten_cons, List.mem_append] at this ⊢
        exact this.imp_right (Or.imp_left (List.mem_cons_of_mem r))
      · exact .cons_of_queues hsorted hforemost.before hforemost.behind (hsort h)

/-- A merge of ordered queues whose sort columns each have one family delivers their stable sort,
however often its rows are read. -/
theorem delivers {m : OrderedMerge} {ss : List (Shard σ)} {queues : List (List Row)}
    {rows : List Row} (hcols : ∀ c ∈ o.columns, c < V.width) (hexact : ∀ r ∈ all, o.Exact r)
    (hsorted : ∀ q ∈ queues, q.Pairwise fun a b => (o.comparePlaces a b).isLE)
    (huniform : o.Uniform all) (hsort : IsStableSort o.comparePlaces queues.flatten rows)
    (h : Stands V o all m ss queues) : (Merger.ordered m).Delivers V none rows ss := by
  induction rows generalizing m ss queues with
  | nil =>
    cases advance_spec hcols hexact h with
    | refused _ hu => exact absurd huniform hu
    | ended hadv _ _ => simp only [Merger.Delivers, Merger.advance, hadv]
    | row _ _ hqueues _ =>
      rw [hqueues] at hsort
      simpa using hsort.perm.length_eq
  | cons r' rows ih =>
    cases advance_spec hcols hexact h with
    | refused _ hu => exact absurd huniform hu
    | ended _ hempty _ =>
      rw [hempty] at hsort
      exact absurd hsort.perm.eq_nil (List.cons_ne_nil r' rows)
    | @row pre r q post m' ss' hadv hsits hqueues hforemost =>
      subst hqueues
      -- the row that goes out heads the stable sort, and the others are the stable sort of the rest
      have hrest : IsStableSort o.comparePlaces (pre ++ q :: post).flatten _ := .mergeSort _
      have hcons := hrest.cons_of_queues hsorted hforemost.before hforemost.behind
      obtain ⟨rfl, rfl⟩ := List.cons.inj (hsort.unique hcons)
      refine ⟨.ordered m', ss', by simp only [Merger.advance, hadv], hsits.imp fun ss hstands => ?_⟩
      exact ih (sorted_of_taken hsorted) hrest hstands

end OrderedMerge

end Confluence
