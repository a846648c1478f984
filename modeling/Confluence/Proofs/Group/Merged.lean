import Confluence.Proofs.Group.Members
import Confluence.Proofs.Pointwise
import Confluence.Proofs.Shape.Bind
import Mathlib.Data.List.GetD
import Mathlib.Data.List.Induction

/-!
# Rows of finished groups

A finished group is the first of its rows, in which each aggregate has overwritten its output with
the result of its own accumulator. No accumulator sees what another one does, and of two aggregates
with one output the later one wins.
-/

namespace Confluence

/-! ### Aggregates -/

namespace BoundAggregate

/-- Feed a row to the accumulator of an aggregate. -/
def step (a : BoundAggregate) (u : Accumulator) (r : Row) : Except Failure Accumulator :=
  match u.merge (a.inputs.map r.cell) with
  | (.ok (), u) => .ok u
  | (.error e, _) => .error e

/-- The accumulator of an aggregate that was fed some rows, one after the other. -/
def feedAll (a : BoundAggregate) (averageScale : Decimal.Scale) (rows : List Row) :
    Except Failure Accumulator :=
  rows.foldlM a.step (.new a.function averageScale)

/-- The aggregate whose result ends up in a column, if there is one. -/
def writer? (as : List BoundAggregate) (column : Nat) : Option BoundAggregate :=
  as.reverse.find? fun a => a.output = column

lemma writer?_cons (a : BoundAggregate) (as : List BoundAggregate) (column : Nat) :
    writer? (a :: as) column =
      (writer? as column).or (if a.output = column then some a else none) := by
  rw [writer?, List.reverse_cons, List.find?_append, writer?]
  by_cases h : a.output = column <;> simp [h]

lemma feedAll_append_singleton {a : BoundAggregate} {scale : Decimal.Scale} {rows : List Row}
    {u : Accumulator} (h : a.feedAll scale rows = .ok u) (r : Row) :
    a.feedAll scale (rows ++ [r]) = a.step u r := by
  rw [feedAll] at h
  rw [feedAll, List.foldlM_append, h]
  exact bind_pure (a.step u r)

/-- Feeding a row to the accumulators of several aggregates feeds it to each of them. -/
lemma feedAll_of_feed_eq_ok {as : List BoundAggregate} {scale : Decimal.Scale} {rows : List Row}
    {us us' : List Accumulator} {r : Row}
    (hus : List.Forall₂ (fun a u => a.feedAll scale rows = .ok u) as us)
    (h : feed r as us = .ok us') :
    List.Forall₂ (fun a u => a.feedAll scale (rows ++ [r]) = .ok u) as us' := by
  induction hus generalizing us' with
  | nil =>
    cases h
    exact .nil
  | @cons a u as us ha _ ih =>
    rw [feed] at h
    rcases hm : u.merge (a.inputs.map r.cell) with ⟨_ | _, u₁⟩
    · rw [hm] at h
      cases h
    · rw [hm] at h
      cases hf : feed r as us with
      | error e => simp [hf] at h
      | ok us₁ =>
        simp only [hf, Except.ok.injEq] at h
        subst h
        refine .cons ?_ (ih hf)
        rw [feedAll_append_singleton ha, step, hm]

lemma exists_step_of_feedAll {a : BoundAggregate} {scale : Decimal.Scale} {rows : List Row}
    {r : Row} {u' : Accumulator} (h : a.feedAll scale (rows ++ [r]) = .ok u') :
    ∃ u, a.feedAll scale rows = .ok u ∧ a.step u r = .ok u' := by
  rw [feedAll, List.foldlM_append] at h
  obtain ⟨u, hu, hstep⟩ := exists_of_bind_eq_ok h
  exact ⟨u, hu, (bind_pure (a.step u r)).symm.trans hstep⟩

/-- A row that each accumulator takes is taken by all of them. -/
lemma exists_feed {as : List BoundAggregate} {us : List Accumulator} {r : Row}
    (h : List.Forall₂ (fun a u => ∃ u', a.step u r = .ok u') as us) :
    ∃ us', feed r as us = .ok us' := by
  induction h with
  | nil => exact ⟨[], rfl⟩
  | @cons a u as us ha _ ih =>
    obtain ⟨u', ha⟩ := ha
    obtain ⟨us', hus⟩ := ih
    rw [step] at ha
    rw [feed]
    rcases hm : u.merge (a.inputs.map r.cell) with ⟨_ | _, u₁⟩
    · rw [hm] at ha
      cases ha
    · exact ⟨u₁ :: us', by simp only [hus]⟩

/-- Results can be written into columns that exist. -/
lemma exists_write {as : List BoundAggregate} {us : List Accumulator} {r : Row}
    (hlt : ∀ a ∈ as, a.output < r.length) : ∃ out, write r as us = .ok out := by
  induction as generalizing r us with
  | nil => exact ⟨r, rfl⟩
  | cons a as ih =>
    rw [List.forall_mem_cons] at hlt
    cases us with
    | nil => exact ⟨r, rfl⟩
    | cons u us =>
      have hset : Row.set? r a.output u.result = .ok (r.set a.output u.result) := if_pos hlt.1
      rw [write, hset]
      refine ih fun a' ha' => ?_
      rw [List.length_set]
      exact hlt.2 a' ha'

/-- Writing results keeps every cell that is no output, and the last of the aggregates with an
output decides on it. -/
lemma of_write_eq_ok {R : BoundAggregate → Accumulator → Prop} {as : List BoundAggregate}
    {us : List Accumulator} {r out : Row} (h : List.Forall₂ R as us)
    (hw : write r as us = .ok out) :
    out.length = r.length ∧ ∀ c < r.length,
      match writer? as c with
      | some a => ∃ u, R a u ∧ out.cell c = u.result
      | none => out.cell c = r.cell c := by
  induction h generalizing r with
  | nil =>
    cases hw
    exact ⟨rfl, fun _ _ => rfl⟩
  | @cons a u as us hau _ ih =>
    rw [write, Row.set?] at hw
    by_cases hlt : a.output < r.length
    · simp only [hlt, if_true] at hw
      obtain ⟨hlen, hcell⟩ := ih hw
      rw [List.length_set] at hlen hcell
      refine ⟨hlen, fun c hc => ?_⟩
      have hcell := hcell c hc
      rw [writer?_cons]
      cases hwriter : writer? as c with
      | some a' =>
        rw [hwriter] at hcell
        exact hcell
      | none =>
        rw [hwriter] at hcell
        simp only at hcell
        rw [Option.none_or, hcell]
        by_cases hac : a.output = c
        · subst hac
          rw [if_pos rfl]
          refine ⟨u, hau, ?_⟩
          simp [Row.cell, hc]
        · rw [if_neg hac]
          simp [Row.cell, hac]
    · simp [hlt] at hw

end BoundAggregate

/-! ### Groups -/

namespace Grouping

/-- The group of a first row before it is fed. -/
def openGroup (g : Grouping) (f : Row) : Group :=
  ⟨f, g.aggregates.map fun a => .new a.function g.averageScale⟩

/-- The group with first row `f` that was fed some rows. -/
def foldGroup (g : Grouping) (f : Row) (rows : List Row) : Except Failure Group :=
  rows.foldlM (Group.feed g) (g.openGroup f)

/-- The row of the finished group with first row `f` and the given members. -/
def mergedRow (g : Grouping) (f : Row) (rows : List Row) : Except Failure Row :=
  match g.foldGroup f rows with
  | .error e => .error e
  | .ok group => group.finish g

/-- The rows of the finished groups of a list, in the order of their first rows. -/
def Finished (g : Grouping) (rows merged : List Row) : Prop :=
  List.Forall₂ (fun f out => g.mergedRow f (g.members rows f) = .ok out) (g.firstRows rows) merged

/-- What the row of a finished group is to be: its first row, in which each output of an aggregate
is the result of the last aggregate with this output, fed with the members of the group. -/
structure IsMerged (g : Grouping) (rows : List Row) (f out : Row) : Prop where
  length_eq : out.length = f.length
  cell_eq : ∀ c < f.length,
    match BoundAggregate.writer? g.aggregates c with
    | some a => ∃ u, a.feedAll g.averageScale (g.members rows f) = .ok u ∧ out.cell c = u.result
    | none => out.cell c = f.cell c

variable {g : Grouping} {f r : Row} {rows : List Row} {group : Group}

lemma start_eq_foldGroup (g : Grouping) (r : Row) : Group.start g r = g.foldGroup r [r] := by
  rw [foldGroup, List.foldlM_cons]
  exact (bind_pure _).symm

/-- A group folds its first row first. -/
lemma foldGroup_cons (g : Grouping) (f : Row) (rows : List Row) :
    g.foldGroup f (f :: rows) =
      (Group.start g f).bind fun group => rows.foldlM (Group.feed g) group := by
  rw [foldGroup, List.foldlM_cons]
  rfl

lemma foldGroup_append_singleton (h : g.foldGroup f rows = .ok group) (r : Row) :
    g.foldGroup f (rows ++ [r]) = group.feed g r := by
  rw [foldGroup] at h
  rw [foldGroup, List.foldlM_append, h]
  exact bind_pure (group.feed g r)

/-- What fails for some members of a group fails for all of them. -/
lemma foldGroup_append_eq_error {e : Failure} (h : g.foldGroup f rows = .error e)
    (rows' : List Row) : g.foldGroup f (rows ++ rows') = .error e := by
  rw [foldGroup] at h
  rw [foldGroup, List.foldlM_append, h]
  rfl

/-- A group keeps its first row and feeds each of its accumulators on its own. -/
lemma of_foldGroup_eq_ok (h : g.foldGroup f rows = .ok group) :
    group.row = f ∧ List.Forall₂ (fun a u => a.feedAll g.averageScale rows = .ok u) g.aggregates
      group.accumulators := by
  induction rows using List.reverseRecOn generalizing group with
  | nil =>
    cases h
    refine ⟨rfl, ?_⟩
    rw [openGroup, List.forall₂_map_right_iff, List.forall₂_same]
    exact fun _ _ => rfl
  | append_singleton rows r ih =>
    cases hg : g.foldGroup f rows with
    | error e =>
      rw [foldGroup_append_eq_error hg] at h
      cases h
    | ok group' =>
      rw [foldGroup_append_singleton hg, Group.feed] at h
      obtain ⟨hrow, hus⟩ := ih hg
      cases hf : BoundAggregate.feed r g.aggregates group'.accumulators with
      | error e => simp [hf] at h
      | ok us =>
        simp only [hf, Except.ok.injEq] at h
        subst h
        exact ⟨hrow, BoundAggregate.feedAll_of_feed_eq_ok hus hf⟩

/-- A group is fed rows that each of its aggregates can be fed. -/
lemma exists_foldGroup (h : ∀ a ∈ g.aggregates, ∃ u, a.feedAll g.averageScale rows = .ok u) :
    ∃ group, g.foldGroup f rows = .ok group := by
  induction rows using List.reverseRecOn with
  | nil => exact ⟨_, rfl⟩
  | append_singleton rows r ih =>
    have hsteps (a : BoundAggregate) (ha : a ∈ g.aggregates) :
        ∃ u u', a.feedAll g.averageScale rows = .ok u ∧ a.step u r = .ok u' := by
      obtain ⟨u', hu'⟩ := h a ha
      obtain ⟨u, hu, hstep⟩ := BoundAggregate.exists_step_of_feedAll hu'
      exact ⟨u, u', hu, hstep⟩
    obtain ⟨group, hgroup⟩ := ih fun a ha => by
      obtain ⟨u, -, hu, -⟩ := hsteps a ha
      exact ⟨u, hu⟩
    obtain ⟨-, hus⟩ := of_foldGroup_eq_ok hgroup
    have hfeed : List.Forall₂ (fun a u => ∃ u', a.step u r = .ok u') g.aggregates
        group.accumulators := by
      refine ((List.forall₂_and_left _ _).mpr ⟨hsteps, hus⟩).imp ?_
      rintro a u ⟨⟨u₁, u', hu₁, hstep⟩, hu⟩
      obtain rfl : u₁ = u := Except.ok.inj (hu₁.symm.trans hu)
      exact ⟨u', hstep⟩
    obtain ⟨us, hus'⟩ := BoundAggregate.exists_feed hfeed
    rw [foldGroup_append_singleton hgroup, Group.feed, hus']
    exact ⟨_, rfl⟩

/-- A group is finished if each of its aggregates can be fed and writes into its first row. -/
lemma exists_mergedRow (h : ∀ a ∈ g.aggregates, ∃ u, a.feedAll g.averageScale rows = .ok u)
    (hlt : ∀ a ∈ g.aggregates, a.output < f.length) : ∃ out, g.mergedRow f rows = .ok out := by
  obtain ⟨group, hgroup⟩ := exists_foldGroup (f := f) h
  rw [mergedRow, hgroup]
  refine BoundAggregate.exists_write fun a ha => ?_
  rw [(of_foldGroup_eq_ok hgroup).1]
  exact hlt a ha

/-- Each aggregate of a finished group could be fed. -/
lemma exists_feedAll_of_mergedRow {out : Row} {a : BoundAggregate}
    (h : g.mergedRow f rows = .ok out) (ha : a ∈ g.aggregates) : ∃ u, a.feedAll g.averageScale rows = .ok u := by
  rw [mergedRow] at h
  cases hgroup : g.foldGroup f rows with
  | error e => simp [hgroup] at h
  | ok group =>
    obtain ⟨-, hus⟩ := of_foldGroup_eq_ok hgroup
    obtain ⟨u, -, hu⟩ := exists_mem_of_forall₂ hus.flip ha
    exact ⟨u, hu⟩

/-- Only outputs of aggregates are written, each by the last aggregate that has it. -/
lemma of_mergedRow_eq_ok {out : Row} (h : g.mergedRow f rows = .ok out) :
    out.length = f.length ∧ ∀ c < f.length,
      match BoundAggregate.writer? g.aggregates c with
      | some a => ∃ u, a.feedAll g.averageScale rows = .ok u ∧ out.cell c = u.result
      | none => out.cell c = f.cell c := by
  rw [mergedRow] at h
  cases hg : g.foldGroup f rows with
  | error e => simp [hg] at h
  | ok group =>
    simp only [hg, Group.finish] at h
    obtain ⟨rfl, hus⟩ := of_foldGroup_eq_ok hg
    exact BoundAggregate.of_write_eq_ok hus h

/-- The row of a finished group is as long as its first row. -/
lemma Finished.length_eq {n : Nat} {merged : List Row} (hrows : ∀ r ∈ rows, r.length = n)
    (h : g.Finished rows merged) : ∀ r ∈ merged, r.length = n :=
  forall_of_forall₂ h fun f hf _ hout =>
    (of_mergedRow_eq_ok hout).1.trans (hrows f (mem_of_mem_firstRows hf))

/-- The row of a finished group is its first row with the results of its aggregates. -/
lemma isMerged_of_mergedRow {out : Row} (h : g.mergedRow f (g.members rows f) = .ok out) :
    g.IsMerged rows f out :=
  ⟨(of_mergedRow_eq_ok h).1, (of_mergedRow_eq_ok h).2⟩

/-- A cell that is no output of an aggregate stays as it is in the first row. -/
lemma cell_eq_of_mergedRow {out : Row} {c : Nat} (h : g.mergedRow f rows = .ok out)
    (hc : ∀ a ∈ g.aggregates, a.output ≠ c) : out.cell c = f.cell c := by
  obtain ⟨hlen, hcell⟩ := of_mergedRow_eq_ok h
  by_cases hlt : c < f.length
  · have hwriter : BoundAggregate.writer? g.aggregates c = none := by
      rw [BoundAggregate.writer?, List.find?_eq_none]
      intro a ha
      simpa using hc a (List.mem_reverse.mp ha)
    have := hcell c hlt
    rwa [hwriter] at this
  · rw [Nat.not_lt] at hlt
    rw [Row.cell, Row.cell, List.getD_eq_default _ _ hlt, List.getD_eq_default _ _ (hlen ▸ hlt)]

end Grouping

end Confluence
