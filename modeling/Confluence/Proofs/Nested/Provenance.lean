import Confluence.Nested
import Confluence.Proofs.Cursor.Alike
import Confluence.Proofs.Cursor.Progress
import Confluence.Proofs.Cursor.Provenance

/-!
# Where failures of nested merges come from

A leaf of a nested merge is found by the positions of the shards on the way to it. Whatever a
client calls on the merge, at most one leaf fails below it, and then the call fails with the same
failure, whose text begins with one note for each shard on the way, the outermost first.
-/

namespace Confluence

namespace Nested

variable {ℓ : Type}

/-! ### Leaves and their places -/

/-- The leaf at the end of a path of shard positions. -/
def leafAt : (n : Nat) → Nested ℓ n → List Nat → Option ℓ
  | 0, l, [] => some l
  | 0, _, _ :: _ => none
  | _ + 1, .inl l, [] => some l
  | _ + 1, .inl _, _ :: _ => none
  | _ + 1, .inr _, [] => none
  | n + 1, .inr c, k :: path => c.shards[k]?.bind fun s => leafAt n s.source path

/-- The shards of every cursor bear their positions as numbers. -/
def Numbered : (n : Nat) → Nested ℓ n → Prop
  | 0, _ => True
  | _ + 1, .inl _ => True
  | n + 1, .inr c => ∀ k (s : Shard (Nested ℓ n)), c.shards[k]? = some s →
      s.number = k ∧ Numbered n s.source

lemma exists_shard_of_leafAt {n : Nat} {c : Cursor (Nested ℓ n)} {path : List Nat} {l : ℓ}
    (h : leafAt (n + 1) (.inr c) path = some l) :
    ∃ k rest s, path = k :: rest ∧ c.shards[k]? = some s ∧ leafAt n s.source rest = some l := by
  cases path with
  | nil => cases h
  | cons k rest =>
    rw [leafAt, Option.bind_eq_some_iff] at h
    obtain ⟨s, hs, hl⟩ := h
    exact ⟨k, rest, s, rfl, hs, hl⟩

lemma leafAt_cons {n k : Nat} {c : Cursor (Nested ℓ n)} {s : Shard (Nested ℓ n)}
    (hs : c.shards[k]? = some s) (path : List Nat) :
    leafAt (n + 1) (.inr c) (k :: path) = leafAt n s.source path := by
  rw [leafAt, hs, Option.bind_some]

/-- What merges are built from, and what they make of it: leaves, and merged cursors over such
sources, in whatever state a client left them. -/
def Merged [RowSource ℓ] : (n : Nat) → Nested ℓ n → Prop
  | 0, _ => True
  | _ + 1, .inl _ => True
  | n + 1, .inr c => ∃ config shape sources opened calls, (∀ s ∈ sources, Merged n s) ∧
      Cursor.merge config shape sources = .ok opened ∧ (opened.run calls).2 = c

/-! ### Watched leaves -/

variable [RowSource ℓ]

/-- Nested sources over watched leaves account for their calls by the logs of the leaves. -/
def provenance : (n : Nat) → Provenance (Nested (Watched ℓ) n)
  | 0 => Watched.provenance ℓ
  | n + 1 => (Watched.provenance ℓ).sum (provenance n).cursor

variable {n : Nat} {x : Option Origin}

lemma numbered_of_below (ih : ∀ {x : Option Origin} {s s' : Nested (Watched ℓ) n},
      (provenance n).Raised x s s' → Numbered n s → Numbered n s')
    {c c' : Cursor (Nested (Watched ℓ) n)} (h : (provenance n).below.Raised x c c')
    (hc : Numbered (n + 1) (.inr c)) : Numbered (n + 1) (.inr c') := by
  intro k s' hs'
  obtain ⟨s, hs, hnumber, y, hy, -⟩ :=
    exists_of_forall₂_getElem? ((provenance n).forall₂_of_below h) hs'
  obtain ⟨hk, hsource⟩ := hc k s hs
  exact ⟨hnumber.trans hk, ih hy hsource⟩

lemma numbered_of_raised {s s' : Nested (Watched ℓ) n} (h : (provenance n).Raised x s s')
    (hs : Numbered n s) : Numbered n s' := by
  induction n generalizing x with
  | zero => exact hs
  | succ n ih =>
    cases h with
    | inl h => exact hs
    | inr h =>
      obtain ⟨y, hy, -⟩ := (provenance n).exists_below h
      exact numbered_of_below ih hy hs

lemma numbered_run {c : Cursor (Nested (Watched ℓ) n)} (hc : Numbered (n + 1) (.inr c))
    (calls : List ClientCall) : Numbered (n + 1) (.inr (c.run calls).2) := by
  induction calls generalizing c with
  | nil => exact hc
  | cons call calls ih =>
    obtain ⟨x, hx, -⟩ := (provenance n).exists_raised_of_answer c call
    have hcall := numbered_of_below numbered_of_raised hx hc
    simp only [Cursor.run]
    split
    · exact hcall
    · exact ih hcall

lemma numbered_of_merged {s : Nested (Watched ℓ) n} (h : Merged n s) : Numbered n s := by
  induction n with
  | zero => trivial
  | succ n ih =>
    cases s with
    | inl l => trivial
    | inr c =>
      obtain ⟨config, shape, sources, opened, calls, hsources, hmerge, rfl⟩ := h
      apply numbered_run
      obtain ⟨x, b, -, -, rfl⟩ := Cursor.of_merge_eq_ok hmerge
      intro k s hs
      have hs' : (Cursor.numberShards 0 sources)[k]? = some s := hs
      rw [Cursor.getElem?_numberShards, Option.map_eq_some_iff] at hs'
      obtain ⟨source, hsource, rfl⟩ := hs'
      exact ⟨Nat.zero_add k, ih (hsources source (List.mem_of_getElem? hsource))⟩

end Nested

/-! ### The way of a failure -/

/-- A failure came up from the leaf at the end of a path, where it was raised in some call. Below a
read there are only reads. -/
structure Origin.CameFrom (o : Origin) (path : List Nat) (stage : Stage) : Prop where
  path_eq : o.route.map (·.2) = path
  getLast?_eq : (o.call :: o.route.map (·.1)).getLast? = some stage
  reads : o.call = .read → ∀ hop ∈ o.route, hop.1 = .read

namespace Origin.CameFrom

variable {o o' : Origin} {path : List Nat} {stage : Stage}

lemma above (h : o.CameFrom path stage) (k : Nat) : (o.above k).CameFrom (k :: path) stage where
  path_eq := congrArg (k :: ·) h.path_eq
  getLast?_eq := by
    show (o.call :: o.call :: o.route.map (·.1)).getLast? = some stage
    rw [List.getLast?_cons_cons, h.getLast?_eq]
  reads hread := List.forall_mem_cons.mpr ⟨hread, h.reads hread⟩

lemma getLast?_route (h : o.CameFrom path stage) (hpath : path ≠ []) :
    (o.route.map (·.1)).getLast? = some stage := by
  have hlast := h.getLast?_eq
  cases hroute : o.route with
  | nil => exact absurd (h.path_eq.symm.trans (congrArg _ hroute)) hpath
  | cons hop route => rwa [hroute, List.map_cons, List.getLast?_cons_cons] at hlast

/-- The call that a cursor was in makes no difference behind a shard. -/
lemma of_route_eq (h : o.CameFrom path stage) (hpath : path ≠ [])
    (hroute : o'.route = o.route) (hread : o'.call = .read → o.call = .read) :
    o'.CameFrom path stage where
  path_eq := hroute ▸ h.path_eq
  getLast?_eq := by
    rw [hroute, List.getLast?_cons, h.getLast?_route hpath, Option.getD_some]
  reads h' := hroute ▸ h.reads (hread h')

end Origin.CameFrom

namespace Nested

variable {ℓ : Type} [RowSource ℓ] {n : Nat} {x : Option Origin} {path : List Nat} {l : Watched ℓ}

/-- The log of a leaf is as before, or shows what was raised. -/
def LogsAt (x : Option Origin) (path : List Nat) (l l' : Watched ℓ) : Prop :=
  l'.raised = l.raised ∨
    ∃ o ∈ x, ∃ stage, o.CameFrom path stage ∧ l'.raised = (stage, o.failure) :: l.raised

omit [RowSource ℓ] in
lemma logsAt_leaf {l l' : Watched ℓ} (h : (Watched.ledger ℓ).Raised x l l') :
    LogsAt x [] l l' := by
  cases x with
  | none => exact Or.inl h
  | some o =>
    obtain ⟨hroute, hraised⟩ := h
    refine Or.inr ⟨o, rfl, o.call, ⟨?_, ?_, ?_⟩, hraised⟩
    · rw [hroute, List.map_nil]
    · rw [hroute, List.map_nil, List.getLast?_singleton]
    · rw [hroute]
      exact fun _ => List.forall_mem_nil _

lemma logsAt_of_below (ih : ∀ {x : Option Origin} {s s' : Nested (Watched ℓ) n} {path : List Nat},
      (provenance n).Raised x s s' → Numbered n s → leafAt n s path = some l →
        ∃ l', leafAt n s' path = some l' ∧ LogsAt x path l l')
    {c c' : Cursor (Nested (Watched ℓ) n)} (h : (provenance n).below.Raised x c c')
    (hc : Numbered (n + 1) (.inr c)) (hl : leafAt (n + 1) (.inr c) path = some l) :
    ∃ l', leafAt (n + 1) (.inr c') path = some l' ∧ LogsAt x path l l' := by
  obtain ⟨k, rest, s, rfl, hs, hsource⟩ := exists_shard_of_leafAt hl
  obtain ⟨rfl, hnumbered⟩ := hc k s hs
  rcases forall₂_getElem? ((provenance n).forall₂_of_below h) s.number with
    ⟨hnone, -⟩ | ⟨t, s', ht, hs', -, y, hy, hx⟩
  · rw [hnone] at hs
    cases hs
  · rw [hs, Option.some.injEq] at ht
    subst ht
    obtain ⟨l', hl', hlog⟩ := ih hy hnumbered hsource
    refine ⟨l', (leafAt_cons hs' rest).trans hl', hlog.imp_right ?_⟩
    rintro ⟨o, ho, stage, hcame, hraised⟩
    exact ⟨o.above s.number, hx o ho, stage, hcame.above s.number, hraised⟩

/-- A leaf stays where it is, and what it raised is what was raised below. -/
lemma logsAt_of_raised {s s' : Nested (Watched ℓ) n} (h : (provenance n).Raised x s s')
    (hs : Numbered n s) (hl : leafAt n s path = some l) :
    ∃ l', leafAt n s' path = some l' ∧ LogsAt x path l l' := by
  induction n generalizing x path with
  | zero =>
    cases path with
    | nil =>
      cases hl
      exact ⟨s', rfl, logsAt_leaf h⟩
    | cons k rest => cases hl
  | succ n ih =>
    cases h with
    | @inl l₀ l₀' h =>
      cases path with
      | nil =>
        cases hl
        exact ⟨l₀', rfl, logsAt_leaf h⟩
      | cons k rest => cases hl
    | inr h =>
      obtain ⟨y, hy, hx⟩ := (provenance n).exists_below h
      obtain ⟨l', hl', hlog⟩ := logsAt_of_below ih hy hs hl
      refine ⟨l', hl', hlog.imp_right ?_⟩
      rintro ⟨o, ho, stage, hcame, hraised⟩
      obtain ⟨o', ho', hroute, hfailure, hread⟩ := hx o ho
      have hpath : path ≠ [] := by
        rintro rfl
        cases hl
      exact ⟨o', ho', stage, hcame.of_route_eq hpath hroute hread, hfailure ▸ hraised⟩

end Nested

/-! ### Logs make no difference -/

lemma Watched.answerAlike_leaf {ℓ : Type} [RowSource ℓ] :
    AnswerAlike fun _ (w : Watched ℓ) (l : ℓ) => w.leaf = l where
  mono h := h
  columnCount h := congrArg RowSource.columnCount h
  columnLabel i h := by
    subst h
    rfl
  advance h := by
    subst h
    exact ⟨rfl, rfl⟩
  value i t h := by
    subst h
    exact ⟨rfl, rfl⟩
  close h := by
    subst h
    exact ⟨rfl, rfl⟩

namespace Nested

variable {ℓ : Type} [RowSource ℓ]

/-- Nested sources over watched leaves, and the same sources over the leaves. -/
def Watches : (n : Nat) → Nested (Watched ℓ) n → Nested ℓ n → Prop
  | 0 => fun (w : Watched ℓ) (l : ℓ) => w.leaf = l
  | n + 1 => Sum.LiftRel (fun w l => w.leaf = l) (Cursor.Like (Watches n))

/-- No answer of a nested source shows whether its leaves are watched. -/
theorem answerAlike_watches (n : Nat) :
    AnswerAlike fun _ (s : Nested (Watched ℓ) n) (t : Nested ℓ n) => Watches n s t := by
  induction n with
  | zero => exact Watched.answerAlike_leaf
  | succ n ih => exact Watched.answerAlike_leaf.sum (Cursor.answerAlike_like ih)

end Nested

namespace Cursor

variable {ℓ : Type} [RowSource ℓ] {n : Nat} {c : Cursor (Nested (Watched ℓ) n)}

/-- A failure of a leaf surfaces as it is, whatever the merges above do. If a client calls a merge
of any depth and a leaf below fails to advance or to read, the leaf fails once, and the call fails
with the same failure: its kind, its SQLSTATE and its data are the same, and if it has a text, the
notes of the shards on the way stand in front of it, one for each merge and the outermost first. -/
theorem failure_of_leaf (h : Nested.Merged (n + 1) (.inr c)) (call : ClientCall) {path : List Nat}
    {l : Watched ℓ} (hl : Nested.leafAt (n + 1) (.inr c) path = some l) :
    ∃ l', Nested.leafAt (n + 1) (.inr (c.answer call).2) path = some l' ∧
      (l'.raised = l.raised ∨ ∃ stage e route f,
        l'.raised = (stage, e) :: l.raised ∧ (c.answer call).1.failure? = some f ∧
          route.map (·.2) = path ∧ (route.map (·.1)).getLast? = some stage ∧
          (call ≠ .advance → ∀ hop ∈ route, hop.1 = .read) ∧
          f = e.prepend (notes route) ∧ f.text? = e.text?.map (notes route ++ ·) ∧
          (∀ text, f.withText text = e.withText text) ∧ f.kind = e.kind ∧
          f.sqlstate = e.sqlstate) := by
  obtain ⟨x, hx, hseen⟩ := (Nested.provenance n).exists_raised_of_answer c call
  have hnumbered := Nested.numbered_of_merged h
  obtain ⟨l', hl', hlog⟩ := Nested.logsAt_of_below Nested.logsAt_of_raised hx hnumbered hl
  refine ⟨l', hl', hlog.imp_right ?_⟩
  rintro ⟨o, ho, stage, hcame, hraised⟩
  obtain ⟨hanswer, hread⟩ := hseen o ho
  obtain ⟨k, rest, -, rfl, -⟩ := Nested.exists_shard_of_leafAt hl
  exact ⟨stage, o.failure, o.route, o.seen, hraised, hanswer, hcame.path_eq,
    hcame.getLast?_route (List.cons_ne_nil k rest), fun hcall => hcame.reads (hread hcall), rfl,
    Failure.text?_prepend .., fun text => Failure.withText_prepend _ text _,
    Failure.kind_prepend .., Failure.sqlstate_prepend ..⟩

/-- A watched leaf with the given rows and failures. -/
def watchedLeaf (rows : List Row) (script : FailureScript) : Watched ScriptedSource where
  leaf := { memory := { labels := ["k", "v"], rows }, script }

/-- A read that loses a leaf two levels down has a note for the inner merge and one for the outer
merge in front of what the leaf said. -/
theorem failure_of_lost_leaf :
    let lost : Failure := .resourceExhausted "lost" 250
    let row : Row := [.text "b", .text "x"]
    ∃ (inner : Cursor (Nested (Watched ScriptedSource) 0))
      (c : Cursor (Nested (Watched ScriptedSource) 1)),
      merge {} {} [watchedLeaf [] {}, watchedLeaf [] {},
          watchedLeaf [row] { value := fun _ column => if column = 2 then some lost else none }] =
        .ok inner ∧
        merge {} { orderBy := [⟨.index 1, .asc, .first⟩] }
          [.inl (watchedLeaf [] {}), .inr inner] = .ok c ∧
        ((c.run [.advance]).2.answer (.valueByLabel "V" .any)).1.failure? =
          some (.resourceExhausted "stage=read, shard=1: stage=read, shard=2: lost" 250) := by
  intro lost row
  let leaves : List (Nested (Watched ScriptedSource) 0) :=
    [watchedLeaf [] {}, watchedLeaf [] {},
      watchedLeaf [row] { value := fun _ column => if column = 2 then some lost else none }]
  have hmerge : ∃ inner, merge {} {} leaves = .ok inner := ⟨_, rfl⟩
  obtain ⟨inner, hinner⟩ := hmerge
  let sources : List (Nested (Watched ScriptedSource) 1) := [.inl (watchedLeaf [] {}), .inr inner]
  obtain ⟨opened, hopened⟩ :
      ∃ c, merge {} { orderBy := [⟨.index 1, .asc, .first⟩] } sources = .ok c := by
    cases hinner
    exact ⟨_, rfl⟩
  let c := (opened.run [.advance]).2
  have hmerged : Nested.Merged 2 (.inr c) := by
    refine ⟨{}, _, sources, opened, [.advance], ?_, hopened, rfl⟩
    refine List.forall_mem_cons.mpr ⟨trivial, List.forall_mem_singleton.mpr ?_⟩
    exact ⟨{}, {}, leaves, inner, [], fun _ _ => trivial, hinner, rfl⟩
  have hbefore : (Nested.leafAt 2 (.inr c) [1, 2]).map (·.raised) = some [] := by
    cases hinner
    cases hopened
    simp only [c, sources, leaves, lost, row]
    decide +kernel
  have hafter : (Nested.leafAt 2 (.inr (c.answer (.valueByLabel "V" .any)).2) [1, 2]).map
      (·.raised) = some [(.read, lost)] := by
    cases hinner
    cases hopened
    simp only [c, sources, leaves, lost, row]
    decide +kernel
  obtain ⟨l, hl, hfresh⟩ := Option.map_eq_some_iff.mp hbefore
  obtain ⟨l', hl', hlog⟩ := failure_of_leaf hmerged (.valueByLabel "V" .any) hl
  rw [hl', Option.map_some, Option.some.injEq] at hafter
  refine ⟨inner, opened, hinner, hopened, ?_⟩
  rcases hlog with hlog | ⟨stage, e, route, f, hlog, hanswer, hpath, -, hread, rfl, -⟩
  · rw [hafter, hfresh] at hlog
    cases hlog
  · rw [hafter, hfresh] at hlog
    cases hlog
    -- the path and the reads fix the whole route
    obtain ⟨⟨s, k⟩, route, rfl, rfl, hinnermost⟩ := List.map_eq_cons_iff.mp hpath
    obtain ⟨⟨s', k'⟩, route, rfl, rfl, hleaf⟩ := List.map_eq_cons_iff.mp hinnermost
    obtain rfl := List.map_eq_nil_iff.mp hleaf
    obtain ⟨rfl, hreads⟩ := List.forall_mem_cons.mp (hread ClientCall.noConfusion)
    obtain rfl := List.forall_mem_singleton.mp hreads
    exact hanswer

end Cursor

end Confluence
