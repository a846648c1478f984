import Confluence.Nested
import Confluence.Proofs.Cursor.Lifecycle

/-!
# The calls that reach the leaves

The lifecycles of leaves and of cursors over sources give one to nested sources of any depth. So in
every session of a client each leaf is called in order, and the ways in which a merge can end close
each leaf exactly once.
-/

namespace Confluence

lemma flatMap_fst_zipIdx {α : Type} (parts : List (List α)) (k : Nat) :
    (parts.zipIdx k).flatMap Prod.fst = parts.flatten := by
  rw [List.flatMap_def, List.zipIdx_map_fst]

namespace Nested

/-- The lifecycle of nested sources: they stand for their leaves, from left to right. -/
def lifecycle : (n : Nat) → Lifecycle (Nested ScriptedSource n) (List ScriptedSource)
  | 0 => ScriptedSource.lifecycle
  | n + 1 => ScriptedSource.lifecycle.sum (lifecycle n).cursor

/-! ### Leaves of sources in a state -/

lemma leaves_of_forall₂ {α β : Type} {f : α → List ScriptedSource} {g : β → List ScriptedSource}
    {Q : ScriptedSource → Prop} {as : List α} {bs : List β}
    (h : List.Forall₂ (fun a b => (g b).map ScriptedSource.origin = f a ∧ ∀ l ∈ g b, Q l) as bs) :
    (bs.flatMap g).map ScriptedSource.origin = as.flatMap f ∧ ∀ l ∈ bs.flatMap g, Q l := by
  induction h with
  | nil => exact ⟨rfl, List.forall_mem_nil _⟩
  | cons hb _ ih =>
    rw [List.flatMap_cons, List.flatMap_cons, List.map_append, hb.1, ih.1,
      List.forall_mem_append]
    exact ⟨rfl, hb.2, ih.2⟩

lemma leaves_of_closed {n : Nat} {names : List ScriptedSource} {s : Nested ScriptedSource n}
    (h : (lifecycle n).Closed names s) :
    (leaves n s).map ScriptedSource.origin = names ∧
      ∀ l ∈ leaves n s, SourceCall.Orderly l.calls ∧ l.closes = 1 := by
  have hleaf {names : List ScriptedSource} {l : ScriptedSource}
      (hl : ScriptedSource.lifecycle.Closed names l) : [l].map ScriptedSource.origin = names ∧
        ∀ l' ∈ [l], SourceCall.Orderly l'.calls ∧ l'.closes = 1 := by
    rw [List.forall_mem_singleton]
    exact hl
  induction n generalizing names with
  | zero => exact hleaf h
  | succ n ih =>
    cases s with
    | inl l => exact hleaf h
    | inr c =>
      obtain ⟨parts, rfl, hclosed⟩ := h
      rw [← flatMap_fst_zipIdx parts 0]
      exact leaves_of_forall₂ (hclosed.imp fun p s hs => ih hs.source)

lemma leaves_of_openShard {n : Nat} {p : List ScriptedSource × Nat}
    {s : Shard (Nested ScriptedSource n)}
    (hopen : (lifecycle n).Open p.1 s.source → (leaves n s.source).map ScriptedSource.origin = p.1 ∧
      ∀ l ∈ leaves n s.source, SourceCall.Orderly l.calls) (h : (lifecycle n).OpenShard p s) :
    (leaves n s.source).map ScriptedSource.origin = p.1 ∧
      ∀ l ∈ leaves n s.source, SourceCall.Orderly l.calls := by
  cases hclosed : s.closed with
  | true =>
    obtain ⟨horigin, hleaves⟩ := leaves_of_closed (h.of_closed hclosed)
    exact ⟨horigin, fun l hl => (hleaves l hl).1⟩
  | false => exact hopen (h.of_not_closed hclosed)

lemma leaves_of_open {n : Nat} {names : List ScriptedSource} {s : Nested ScriptedSource n}
    (h : (lifecycle n).Open names s) :
    (leaves n s).map ScriptedSource.origin = names ∧
      ∀ l ∈ leaves n s, SourceCall.Orderly l.calls := by
  have hleaf {names : List ScriptedSource} {l : ScriptedSource}
      (hl : ScriptedSource.lifecycle.Open names l) : [l].map ScriptedSource.origin = names ∧
        ∀ l' ∈ [l], SourceCall.Orderly l'.calls := by
    rw [List.forall_mem_singleton]
    exact ⟨hl.1, hl.2.orderly⟩
  induction n generalizing names with
  | zero => exact hleaf h
  | succ n ih =>
    cases s with
    | inl l => exact hleaf h
    | inr c =>
      obtain ⟨parts, rfl, hsound⟩ := h
      rw [← flatMap_fst_zipIdx parts 0]
      exact leaves_of_forall₂ (hsound.shards.imp fun p s hs => leaves_of_openShard ih hs)

/-! ### Sources that are handed to a merge -/

/-- What may be handed to a merge: leaves that were not called yet, and merged cursors over such
sources, in whatever state a client left them that did not drop them. -/
def Handed : (n : Nat) → Nested ScriptedSource n → Prop
  | 0, l => l.calls = []
  | _ + 1, .inl l => l.calls = []
  | n + 1, .inr c => ∃ config shape sources opened calls, (∀ s ∈ sources, Handed n s) ∧
      Cursor.merge config shape sources = .ok opened ∧ .drop ∉ calls ∧ (opened.run calls).2 = c

lemma forall₂_ready_of {n : Nat} {sources : List (Nested ScriptedSource n)}
    (h : ∀ s ∈ sources, (lifecycle n).Ready ((leaves n s).map ScriptedSource.origin) s) :
    List.Forall₂ (lifecycle n).Ready
      (sources.map fun s => (leaves n s).map ScriptedSource.origin) sources := by
  rw [List.forall₂_map_left_iff, List.forall₂_same]
  exact h

lemma ready_of_handed {n : Nat} {s : Nested ScriptedSource n} (h : Handed n s) :
    (lifecycle n).Ready ((leaves n s).map ScriptedSource.origin) s := by
  have hleaf {l : ScriptedSource} (hl : l.calls = []) :
      ScriptedSource.lifecycle.Ready [l.origin] l := by
    refine ⟨rfl, ⟨?_, ?_⟩, ?_⟩
    · rw [hl]
      trivial
    · rw [hl]
      exact List.not_mem_nil
    · rw [hl]
      exact List.not_mem_nil
  induction n with
  | zero => exact hleaf h
  | succ n ih =>
    cases s with
    | inl l => exact hleaf h
    | inr c =>
      obtain ⟨config, shape, sources, opened, calls, hsources, hmerge, hdrop, rfl⟩ := h
      have hready := forall₂_ready_of fun s hs => ih (hsources s hs)
      have hsound := (Lifecycle.sound_of_merge hready hmerge).run_sound hdrop
      have hcursor : (lifecycle (n + 1)).Ready _ (.inr (opened.run calls).2) :=
        ⟨_, rfl, hsound⟩
      rwa [(leaves_of_open ((lifecycle (n + 1)).open_of_ready hcursor)).1]

/-! ### Closing without a call to advance -/

lemma map_leaves_close {n : Nat} {α : Type} {f : ScriptedSource → α} (hf : ∀ l, f l.close.2 = f l)
    (s : Nested ScriptedSource n) :
    (leaves n (RowSource.close s).2).map f = (leaves n s).map f := by
  have hleaf (l : ScriptedSource) : [l.close.2].map f = [l].map f := congrArg (fun a => [a]) (hf l)
  induction n with
  | zero => exact hleaf s
  | succ n ih =>
    cases s with
    | inl l => exact hleaf l
    | inr c =>
      have hshards : c.close.2.shards = c.shards.map fun s => s.close.2 := by
        have hshut : c.shut.2.shards = c.shards.map fun s => s.close.2 :=
          Lifecycle.closeShards_eq_map c.shards
        rw [Cursor.close]
        split
        next c₁ hc₁ => rwa [hc₁] at hshut
        next e c₁ hc₁ => rwa [hc₁] at hshut
      have hshard (s : Shard (Nested ScriptedSource n)) :
          (leaves n s.close.2.source).map f = (leaves n s.source).map f := by
        rw [Shard.close]
        split
        · rfl
        · exact ih s.source
      show (c.close.2.shards.flatMap fun s => leaves n s.source).map f =
        (c.shards.flatMap fun s => leaves n s.source).map f
      rw [hshards, List.flatMap_map, List.map_flatMap, List.map_flatMap]
      exact congrArg (fun g => c.shards.flatMap g) (funext hshard)

lemma advances_close (l : ScriptedSource) : l.close.2.advances = l.advances := by
  rw [ScriptedSource.advances, ScriptedSource.advances, l.calls_close]
  rfl

end Nested

namespace Cursor

/-! ### Merges of nested sources -/

open Nested (leaves)

/-- Every leaf is called in order, and closed exactly once whatever ends its merge: a failure to
open, which calls none of them to advance, or in a session of any length a failure to advance, a
transient failure to read, or being closed or dropped. The leaves are those that were handed to the
merge, directly or inside of other merges. -/
theorem merge_session_orderly {n : Nat} {config : Config} {shape : Shape}
    {sources : List (Nested ScriptedSource n)} (h : ∀ s ∈ sources, s.Handed n) :
    (∀ e given, Cursor.merge config shape sources = .error (e, given) →
      (given.flatMap (leaves n)).map ScriptedSource.origin =
          (sources.flatMap (leaves n)).map ScriptedSource.origin ∧
        (given.flatMap (leaves n)).map ScriptedSource.advances =
          (sources.flatMap (leaves n)).map ScriptedSource.advances ∧
        ∀ l ∈ given.flatMap (leaves n), SourceCall.Orderly l.calls ∧ l.closes = 1) ∧
      ∀ c, Cursor.merge config shape sources = .ok c → ∀ calls,
        let (answers, c') := c.run calls
        let after := leaves (n + 1) (.inr c')
        after.map ScriptedSource.origin = (sources.flatMap (leaves n)).map ScriptedSource.origin ∧
          (∀ l ∈ after, SourceCall.Orderly l.calls) ∧
          ((∃ a ∈ answers, a.isFinal = true) → ∀ l ∈ after, l.closes = 1) := by
  have hready := Nested.forall₂_ready_of fun s hs => Nested.ready_of_handed (h s hs)
  have hnames : (sources.map fun s => (leaves n s).map ScriptedSource.origin).flatten =
      (sources.flatMap (leaves n)).map ScriptedSource.origin := by
    rw [List.map_flatMap, List.flatMap_def]
  constructor
  · intro e given hmerge
    obtain rfl := Lifecycle.given_of_merge hmerge
    have hclosed : ∀ s ∈ sources, _ := fun s hs =>
      Nested.leaves_of_closed ((Nested.lifecycle n).close
        ((Nested.lifecycle n).open_of_ready (Nested.ready_of_handed (h s hs))))
    refine ⟨?_, ?_, ?_⟩
    · rw [List.flatMap_map, List.map_flatMap, List.map_flatMap]
      exact List.flatMap_congr fun s hs => (hclosed s hs).1
    · rw [List.flatMap_map, List.map_flatMap, List.map_flatMap]
      exact List.flatMap_congr fun s _ => Nested.map_leaves_close Nested.advances_close s
    · rw [List.flatMap_map, List.forall_mem_flatMap]
      exact fun s hs => (hclosed s hs).2
  · intro c hmerge calls
    obtain ⟨hopen, hclosed⟩ := (Lifecycle.sound_of_merge hready hmerge).run calls
    have hleaves := Nested.leaves_of_forall₂
      (hopen.imp fun p s hs => Nested.leaves_of_openShard Nested.leaves_of_open hs)
    rw [flatMap_fst_zipIdx, hnames] at hleaves
    refine ⟨hleaves.1, hleaves.2, fun hfinal l hl => ?_⟩
    have hleaves' := Nested.leaves_of_forall₂ (f := Prod.fst) (g := fun s => leaves n s.source)
      ((hclosed (Or.inr hfinal)).imp fun p s hs => Nested.leaves_of_closed hs.source)
    exact (hleaves'.2 l hl).2

/-- A leaf with one row whose connection is lost after that row, and fails again when closed. -/
def lostLeaf : ScriptedSource where
  memory := { labels := ["k"], rows := [[.text "a"]] }
  script := { advance := some (1, Failure.io "lost"), close := some (.io "gone") }

/-- A failure of a nested leaf to advance closes it and the leaf beside it once, though closing
fails. -/
theorem session_of_lost_leaf :
    ∃ (inner : Cursor (Nested ScriptedSource 0)) (c : Cursor (Nested ScriptedSource 1)),
      Cursor.merge {} {} [lostLeaf] = .ok inner ∧
        Cursor.merge {} {} [.inr inner, .inl lostLeaf] = .ok c ∧
        ∀ l ∈ leaves 2 (.inr (c.run [.advance, .currentRow, .advance]).2), l.closes = 1 := by
  obtain ⟨inner, hinner⟩ : ∃ c : Cursor (Nested ScriptedSource 0),
      Cursor.merge {} {} [lostLeaf] = .ok c := ⟨_, rfl⟩
  let sources : List (Nested ScriptedSource 1) := [.inr inner, .inl lostLeaf]
  have hsources : ∀ s ∈ sources, s.Handed 1 := by
    have hlost : ∀ s ∈ [lostLeaf], Nested.Handed 0 s := List.forall_mem_singleton.mpr rfl
    refine List.forall_mem_cons.mpr ⟨?_, List.forall_mem_singleton.mpr rfl⟩
    exact ⟨{}, {}, [lostLeaf], inner, [], hlost, hinner, List.not_mem_nil, rfl⟩
  have hrun : (Cursor.merge {} {} sources).map
      (fun c => (c.run [.advance, .currentRow, .advance]).1.any (·.isFinal)) = .ok true := by
    cases hinner
    rfl
  cases hc : Cursor.merge {} {} sources with
  | error e =>
    rw [hc] at hrun
    cases hrun
  | ok c =>
    rw [hc, Except.map, Except.ok.injEq, List.any_eq_true] at hrun
    obtain ⟨-, -, hclosed⟩ :=
      (merge_session_orderly hsources).2 c hc [.advance, .currentRow, .advance]
    exact ⟨inner, c, hinner, hc, hclosed hrun⟩

end Cursor

end Confluence
