import Confluence.Proofs.Group.Merged
import Confluence.Proofs.Merge.GroupedStream

/-!
# Groups of sorted rows

If rows are sorted by their group columns, the runs of the list are its groups. A stable sort by the
group columns moves groups as a whole, each with its rows in their order, so the finished rows are
the same up to their order, and sorting them gives one result.
-/

namespace Confluence

/-! ### Lists -/

lemma takeWhile_eq_filter {α : Type} {p : α → Bool} {xs : List α}
    (h : xs.Pairwise fun a b => p b = true → p a = true) :
    xs.takeWhile p = xs.filter p ∧ xs.dropWhile p = xs.filter (!p ·) := by
  induction xs with
  | nil => exact ⟨rfl, rfl⟩
  | cons a xs ih =>
    rw [List.pairwise_cons] at h
    cases ha : p a with
    | true => simp [ha, ih h.2]
    | false =>
      have hrest (b : α) (hb : b ∈ xs) : p b = false := by
        rw [← Bool.not_eq_true]
        intro hpb
        rw [h.1 b hb hpb] at ha
        cases ha
      have hnone : xs.filter p = [] := by simpa [List.filter_eq_nil_iff] using hrest
      have hall : xs.filter (!p ·) = xs := by simpa [List.filter_eq_self] using hrest
      simp [ha, hnone, hall]

/-- Permuted lists without ties are the stable sorts of each other. -/
lemma isStableSort_of_pairwise_lt {α : Type} {cmp : α → α → Ordering} [Std.TransCmp cmp]
    {xs ys : List α} (hperm : ys.Perm xs) (hlt : ys.Pairwise fun a b => cmp a b = .lt) :
    IsStableSort cmp xs ys where
  perm := hperm
  sorted := hlt.imp fun {a b} h => by rw [h]; rfl
  stable a _ := by
    have hp := hperm.filter (cmp a · = .eq)
    have hties : (ys.filter (cmp a · = .eq)).Pairwise fun _ _ => False := by
      refine (hlt.sublist List.filter_sublist).imp_of_mem fun {b c} hb hc hbc => ?_
      have hab : cmp a b = .eq := of_decide_eq_true (List.mem_filter.mp hb).2
      have hac : cmp a c = .eq := of_decide_eq_true (List.mem_filter.mp hc).2
      rw [← Std.TransCmp.congr_left hab, hac] at hbc
      cases hbc
    cases hys : ys.filter (cmp a · = .eq) with
    | nil =>
      rw [hys] at hp
      exact (List.nil_perm.mp hp).symm
    | cons b bs =>
      rw [hys] at hp hties
      cases bs with
      | nil => exact List.singleton_perm.mp hp
      | cons c bs => exact ((List.pairwise_cons.mp hties).1 c List.mem_cons_self).elim

namespace Grouping

variable {g : Grouping} {o : RowOrder} {a b f : Row} {rows rows' merged : List Row}

/-! ### Rows in the order of their groups -/

lemma exact_iff (hg : g.groupColumns = o.columns) : g.Exact a ↔ o.Exact a := by
  rw [Exact, hg, RowOrder.columns, List.forall_mem_map]
  rfl

/-- Rows fall into one group if they tie in an order by the group columns. -/
lemma same_iff_comparePlaces (hg : g.groupColumns = o.columns) (ha : o.Exact a) (hb : o.Exact b) :
    g.same a b = true ↔ o.comparePlaces a b = .eq := by
  rw [same_iff ((exact_iff hg).mpr ha) ((exact_iff hg).mpr hb), hg, RowOrder.columns,
    List.forall_mem_map, RowOrder.comparePlaces_eq_eq_iff]

/-- Rows of different groups that stand in order stand in strict order. -/
lemma comparePlaces_eq_lt (hg : g.groupColumns = o.columns) (ha : o.Exact a) (hb : o.Exact b)
    (hle : (o.comparePlaces a b).isLE) (hsame : g.same a b = false) :
    o.comparePlaces a b = .lt := by
  cases hc : o.comparePlaces a b with
  | lt => rfl
  | eq =>
    rw [(same_iff_comparePlaces hg ha hb).mpr hc] at hsame
    cases hsame
  | gt =>
    rw [hc] at hle
    cases hle

/-- The runs of sorted rows are their groups. -/
lemma runs_eq_of_sorted (hg : g.groupColumns = o.columns) (hexact : ∀ r ∈ rows, o.Exact r)
    (hsorted : rows.Pairwise fun a b => (o.comparePlaces a b).isLE) :
    g.runs rows = (g.firstRows rows).map fun f => (f, g.members rows f) := by
  induction rows using groupInduction g with
  | nil => rw [runs]; rfl
  | cons f rows ih =>
    have hexact' := List.forall_mem_cons.mp hexact
    have hg' (r : Row) (hr : r ∈ f :: rows) : g.Exact r := (exact_iff hg).mpr (hexact r hr)
    rw [List.pairwise_cons] at hsorted
    -- between `f` and a row of its group no other group fits in
    have hblock : rows.Pairwise fun a b => g.same b f = true → g.same a f = true := by
      refine hsorted.2.imp_of_mem fun {a b} ha hb hab hbf => ?_
      have hfa := hsorted.1 a ha
      rw [same_iff_comparePlaces hg (hexact'.2 b hb) hexact'.1] at hbf
      rw [same_iff_comparePlaces hg (hexact'.2 a ha) hexact'.1]
      rw [Std.TransCmp.congr_right hbf] at hab
      exact Std.OrientedCmp.isLE_antisymm hab hfa
    obtain ⟨htake, hdrop⟩ := takeWhile_eq_filter hblock
    have hrest : rows.dropWhile (g.same · f) = rows.filter fun r => g.same r f = false := by
      rw [hdrop]
      exact List.filter_congr fun r _ => by cases g.same r f <;> rfl
    have hmembers : f :: rows.takeWhile (g.same · f) = g.members (f :: rows) f := by
      rw [htake, members, List.filter_cons_of_pos (same_self (hg' f List.mem_cons_self))]
      refine congrArg _ (List.filter_congr fun r hr => ?_)
      exact same_comm (hg' r (List.mem_cons_of_mem f hr)) (hg' f List.mem_cons_self)
    rw [runs, hmembers, hrest, firstRows_cons, List.map_cons,
      ih (fun r hr => hexact'.2 r (List.mem_of_mem_filter hr)) (hsorted.2.sublist List.filter_sublist)]
    refine congrArg _ (List.map_congr_left fun f' hf' => ?_)
    obtain ⟨hmem, hsame⟩ := List.mem_filter.mp (mem_of_mem_firstRows hf')
    rw [members_cons_of_not_same hg' (hg' f' (List.mem_cons_of_mem f hmem)) (of_decide_eq_true hsame)]

/-- Groups keep their members in a stable sort. -/
lemma members_eq_of_isStableSort (hg : g.groupColumns = o.columns) (hexact : ∀ r ∈ rows, o.Exact r)
    (h : IsStableSort o.comparePlaces rows rows') (hf : o.Exact f) :
    g.members rows' f = g.members rows f := by
  have hmembers {xs : List Row} (hxs : ∀ r ∈ xs, o.Exact r) :
      g.members xs f = xs.filter (o.comparePlaces f · = .eq) := by
    refine List.filter_congr fun r hr => ?_
    rw [Bool.eq_iff_iff, same_iff_comparePlaces hg hf (hxs r hr), decide_eq_true_iff]
  rw [hmembers hexact, hmembers fun r hr => hexact r (h.perm.mem_iff.mp hr), h.filter_eq]

/-- Groups keep their first rows in a stable sort. -/
lemma firstRows_perm_of_isStableSort (hg : g.groupColumns = o.columns)
    (hexact : ∀ r ∈ rows, o.Exact r) (h : IsStableSort o.comparePlaces rows rows') :
    (g.firstRows rows').Perm (g.firstRows rows) := by
  have hrows (r : Row) (hr : r ∈ rows) : g.Exact r := (exact_iff hg).mpr (hexact r hr)
  have hrows' (r : Row) (hr : r ∈ rows') : g.Exact r := hrows r (h.perm.mem_iff.mp hr)
  have hnodup {xs : List Row} (hxs : ∀ r ∈ xs, g.Exact r) : (g.firstRows xs).Nodup := by
    refine (pairwise_firstRows hxs).imp_of_mem fun {a b} ha hb hab => ?_
    rintro rfl
    rw [same_self (hxs a (mem_of_mem_firstRows ha))] at hab
    cases hab
  rw [List.perm_ext_iff_of_nodup (hnodup hrows') (hnodup hrows)]
  intro f
  rw [mem_firstRows_iff hrows', mem_firstRows_iff hrows, h.perm.mem_iff]
  refine and_congr_right fun hf => ?_
  rw [members_eq_of_isStableSort hg hexact h (hexact f hf)]

/-! ### Finished rows -/

variable {merged' : List Row}

/-- Finished rows have the group cells of the first rows of their groups. -/
lemma Finished.cells_eq (hout : ∀ a ∈ g.aggregates, a.output ∉ o.columns) (h : g.Finished rows merged) :
    List.Forall₂ (fun f out => ∀ t ∈ o, out.cell t.column = f.cell t.column) (g.firstRows rows)
      merged := by
  refine h.imp fun f out hfout t ht => cell_eq_of_mergedRow hfout fun a ha heq => ?_
  exact hout a ha (heq ▸ List.mem_map_of_mem ht)

/-- The finished rows of a stable sort are permuted. -/
lemma Finished.perm (hg : g.groupColumns = o.columns) (hexact : ∀ r ∈ rows, o.Exact r)
    (hsort : IsStableSort o.comparePlaces rows rows') (h : g.Finished rows merged)
    (h' : g.Finished rows' merged') : merged'.Perm merged := by
  have hmap {xs ys : List Row} {F : Row → Except Failure Row}
      (hxy : List.Forall₂ (fun x y => F x = .ok y) xs ys) : xs.map F = ys.map .ok := by
    rw [← List.forall₂_eq_eq_eq, List.forall₂_map_left_iff, List.forall₂_map_right_iff]
    exact hxy
  have hperm := firstRows_perm_of_isStableSort hg hexact hsort
  have heq : (g.firstRows rows').map (fun f => g.mergedRow f (g.members rows' f)) =
      (g.firstRows rows').map fun f => g.mergedRow f (g.members rows f) := by
    refine List.map_congr_left fun f hf => ?_
    have hf' := hexact f (mem_of_mem_firstRows (hperm.mem_iff.mp hf))
    rw [members_eq_of_isStableSort hg hexact hsort hf']
  have hmaps := hperm.map fun f => g.mergedRow f (g.members rows f)
  rw [← heq, hmap h, hmap h'] at hmaps
  exact (List.map_perm_map_iff fun _ _ => Except.ok.inj).mp hmaps

/-- The finished rows of sorted rows are in strict order. -/
lemma Finished.pairwise_lt (hg : g.groupColumns = o.columns)
    (hout : ∀ a ∈ g.aggregates, a.output ∉ o.columns) (hexact : ∀ r ∈ rows, o.Exact r)
    (hsorted : rows.Pairwise fun a b => (o.comparePlaces a b).isLE) (h : g.Finished rows merged) :
    merged.Pairwise fun a b => o.comparePlaces a b = .lt := by
  have hrows (r : Row) (hr : r ∈ rows) : g.Exact r := (exact_iff hg).mpr (hexact r hr)
  have hfirsts : (g.firstRows rows).Pairwise fun a b => o.comparePlaces a b = .lt := by
    have hle := hsorted.sublist (g.firstRows_sublist rows)
    refine (hle.and (pairwise_firstRows hrows)).imp_of_mem fun {a b} ha hb hab => ?_
    exact comparePlaces_eq_lt hg (hexact a (mem_of_mem_firstRows ha))
      (hexact b (mem_of_mem_firstRows hb)) hab.1 hab.2
  have hcells := h.cells_eq hout
  clear h
  generalize g.firstRows rows = fs at hfirsts hcells
  induction hcells with
  | nil => exact List.Pairwise.nil
  | @cons f out fs outs hf hfs ih =>
    rw [List.pairwise_cons] at hfirsts
    refine List.pairwise_cons.mpr ⟨?_, ih hfirsts.2⟩
    refine forall_of_forall₂ hfs fun f' hf' out' hout' => ?_
    rw [RowOrder.comparePlaces_congr hf hout']
    exact hfirsts.1 f' hf'

/-- The group columns of finished rows hold the families that they hold in all rows. -/
lemma Finished.uniform_iff (hg : g.groupColumns = o.columns)
    (hout : ∀ a ∈ g.aggregates, a.output ∉ o.columns) (hexact : ∀ r ∈ rows, o.Exact r)
    (h : g.Finished rows merged) : o.Uniform merged ↔ o.Uniform rows := by
  have hrows (r : Row) (hr : r ∈ rows) : g.Exact r := (exact_iff hg).mpr (hexact r hr)
  have hcells := h.cells_eq hout
  have hfirsts : o.Uniform merged ↔ o.Uniform (g.firstRows rows) := by
    refine forall₂_congr fun t ht => exists_congr fun family => ⟨fun hu => ?_, fun hu => ?_⟩
    · refine forall_of_forall₂ hcells.flip fun out hout f hf => ?_
      rw [← hf t ht]
      exact hu out hout
    · refine forall_of_forall₂ hcells fun f hf out hout => ?_
      rw [hout t ht]
      exact hu f hf
  rw [hfirsts]
  refine forall₂_congr fun t ht => exists_congr fun family => ⟨fun hu r hr => ?_, fun hu f hf => ?_⟩
  · obtain ⟨f, hf, hsame⟩ := exists_first hrows hr
    have hf' := mem_of_mem_firstRows hf
    rw [same_iff_comparePlaces hg (hexact f hf') (hexact r hr),
      RowOrder.comparePlaces_eq_eq_iff] at hsame
    have hfamily := Cell.family?_eq_of_place_eq (hsame t ht)
    have hnull : (r.cell t.column).isNull = (f.cell t.column).isNull := by
      rw [Bool.eq_iff_iff, Cell.isNull_eq_true_iff, Cell.isNull_eq_true_iff,
        ← Cell.family?_eq_none_iff, ← Cell.family?_eq_none_iff, hfamily]
    rw [hnull, ← hfamily]
    exact hu f hf
  · exact hu f (mem_of_mem_firstRows hf)

/-- The groups of rows can be finished exactly if each of them can. -/
lemma exists_finished_iff :
    (∃ merged, g.Finished rows merged) ↔
      ∀ f ∈ g.firstRows rows, ∃ out, g.mergedRow f (g.members rows f) = .ok out := by
  constructor
  · rintro ⟨merged, h⟩
    exact forall_of_forall₂ h.flip fun out _ f hf => ⟨out, hf⟩
  · exact exists_forall₂

/-- Whether the groups of rows can be finished does not change in a stable sort. -/
lemma exists_finished_congr (hg : g.groupColumns = o.columns) (hexact : ∀ r ∈ rows, o.Exact r)
    (hsort : IsStableSort o.comparePlaces rows rows') :
    (∃ merged, g.Finished rows' merged) ↔ ∃ merged, g.Finished rows merged := by
  have hperm := firstRows_perm_of_isStableSort hg hexact hsort
  rw [exists_finished_iff, exists_finished_iff]
  refine forall_congr' fun f => ?_
  rw [hperm.mem_iff]
  refine forall_congr' fun hf => ?_
  rw [members_eq_of_isStableSort hg hexact hsort (hexact f (mem_of_mem_firstRows hf))]

lemma Finished.exact (hout : ∀ a ∈ g.aggregates, a.output ∉ o.columns)
    (hexact : ∀ r ∈ rows, o.Exact r) (h : g.Finished rows merged) : ∀ r ∈ merged, o.Exact r :=
  forall_of_forall₂ (h.cells_eq hout) fun f hf out hcells t ht => by
    rw [hcells t ht]
    exact hexact f (mem_of_mem_firstRows hf) t ht

/-- The finished rows of sorted rows are what sorting the finished rows gives. -/
lemma Finished.eq_sort (hg : g.groupColumns = o.columns)
    (hout : ∀ a ∈ g.aggregates, a.output ∉ o.columns) (hexact : ∀ r ∈ rows, o.Exact r)
    (hsort : IsStableSort o.comparePlaces rows rows') (h : g.Finished rows merged)
    (h' : g.Finished rows' merged') : merged' = o.sort merged := by
  have hexact' (r : Row) (hr : r ∈ rows') : o.Exact r := hexact r (hsort.perm.mem_iff.mp hr)
  have hmerged := h.exact hout hexact
  have hplaces := RowOrder.isStableSort_sort_comparePlaces hmerged
  have hlt := h'.pairwise_lt hg hout hexact' hsort.sorted
  exact (isStableSort_of_pairwise_lt (h.perm hg hexact hsort h') hlt).unique hplaces

end Grouping

end Confluence
