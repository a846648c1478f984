import Confluence.Proofs.Group.Merged

/-!
# Tables hold the groups of the rows added

After some rows were added, a table has one entry for each first row, in the order in which the
groups were first seen, and the entry was fed with all members of its group and with nothing else.
A row is refused exactly if the aggregates of its group cannot be fed with it.
-/

namespace Confluence

variable {g : Grouping} {seen rows : List Row} {f r : Row} {p : GroupKey × Group}

namespace GroupTable

/-- An entry of a table stands for the group of a first row. -/
structure Tracks (g : Grouping) (seen : List Row) (f : Row) (p : GroupKey × Group) : Prop where
  key_eq : p.1 = g.keyOf f
  group_eq : g.foldGroup f (g.members seen f) = .ok p.2

lemma Tracks.append_of_not_same (h : Tracks g seen f p) (hr : g.same f r = false) :
    Tracks g (seen ++ [r]) f p := by
  refine ⟨h.key_eq, ?_⟩
  rw [Grouping.members_append, Grouping.members, Grouping.members, List.filter_cons_of_neg (by simp [hr]),
    List.filter_nil, List.append_nil]
  exact h.group_eq

lemma tracks_append_of_not_same {fs : List Row} {gs : List (GroupKey × Group)}
    (hgs : List.Forall₂ (Tracks g seen) fs gs) (h : ∀ f ∈ fs, g.same f r = false) :
    List.Forall₂ (Tracks g (seen ++ [r])) fs gs := by
  induction hgs with
  | nil => exact .nil
  | cons hp _ ih =>
    rw [List.forall_mem_cons] at h
    exact .cons (hp.append_of_not_same h.1) (ih h.2)

lemma Tracks.feed_eq (h : Tracks g seen f p) (hr : g.same f r = true) :
    p.2.feed g r = g.foldGroup f (g.members (seen ++ [r]) f) := by
  have hmem : g.members [r] f = [r] := by simp [Grouping.members, hr]
  rw [Grouping.members_append, hmem, Grouping.foldGroup_append_singleton h.group_eq]

/-- A row of no group in the table starts a new one behind the others. -/
lemma addTo_of_not_same {fs : List Row} {gs : List (GroupKey × Group)}
    (hgs : List.Forall₂ (Tracks g seen) fs gs) (h : ∀ f ∈ fs, g.same f r = false) (skip : Nat) :
    addTo g r skip gs =
      match Group.start g r with
      | .error e => .error e
      | .ok group => .ok (gs ++ [(g.keyOf r, group)]) := by
  induction hgs generalizing skip with
  | nil => rfl
  | @cons f p fs gs hp _ ih =>
    rw [List.forall_mem_cons] at h
    obtain ⟨key, group⟩ := p
    have hkey : key.same (g.keyOf r) = false := by
      rw [show key = g.keyOf f from hp.key_eq]
      exact h.1
    rw [addTo, ih h.2]
    simp only [hkey, Bool.false_and, Bool.false_eq_true, if_false]
    cases Group.start g r <;> rfl

/-- Behind an entry with the key of a row, no search for that key goes on if none of the other entries
has it. -/
lemma endsAt_of_not_same {fs : List Row} {gs : List (GroupKey × Group)}
    (hgs : List.Forall₂ (Tracks g seen) fs gs) (h : ∀ f ∈ fs, g.same f r = false) (skip : Nat) :
    endsAt (g.keyOf r) skip gs = true := by
  have hall : ∀ p ∈ gs, p.1.same (g.keyOf r) = false := by
    intro p hp
    obtain ⟨f, hf, hfp⟩ := exists_mem_of_forall₂ hgs hp
    rw [hfp.key_eq]
    exact h f hf
  simp only [endsAt, Bool.or_eq_true, List.all_eq_true, Bool.not_eq_true']
  exact Or.inr hall

/-- A row of a group in the table is fed to the entry of this group. -/
lemma addTo_of_same {fs : List Row} {gs : List (GroupKey × Group)}
    (hgs : List.Forall₂ (Tracks g seen) fs gs) (hexact : ∀ f ∈ fs, g.Exact f) (hr : g.Exact r)
    (hfs : fs.Pairwise fun a b => g.same a b = false) (h : ∃ f ∈ fs, g.same f r = true)
    (skip : Nat) :
    (∃ gs', addTo g r skip gs = .ok gs' ∧ List.Forall₂ (Tracks g (seen ++ [r])) fs gs') ∨
      ∃ e, addTo g r skip gs = .error e ∧
        ∃ f ∈ fs, g.foldGroup f (g.members (seen ++ [r]) f) = .error e := by
  induction hgs generalizing skip with
  | nil =>
    obtain ⟨f, hf, -⟩ := h
    cases hf
  | @cons f p fs gs hp hgs ih =>
    rw [List.forall_mem_cons] at hexact
    rw [List.pairwise_cons] at hfs
    obtain ⟨key, group⟩ := p
    have hkey : key.same (g.keyOf r) = g.same f r := by
      rw [show key = g.keyOf f from hp.key_eq]
      rfl
    rw [addTo, hkey]
    cases hfr : g.same f r with
    | true =>
      have hothers (f' : Row) (hf' : f' ∈ fs) : g.same f' r = false := by
        rw [← hfs.1 f' hf', Grouping.same_congr_left hexact.1 hr (hexact.2 f' hf') hfr,
          Grouping.same_comm hr (hexact.2 f' hf')]
      have hrest := tracks_append_of_not_same hgs hothers
      have hfeed := hp.feed_eq hfr
      rw [endsAt_of_not_same hgs hothers, if_pos rfl]
      cases hg : group.feed g r with
      | error e =>
        right
        exact ⟨e, rfl, f, List.mem_cons_self, hfeed.symm.trans hg⟩
      | ok group' =>
        left
        exact ⟨(key, group') :: gs, rfl, .cons ⟨hp.key_eq, hfeed.symm.trans hg⟩ hrest⟩
    | false =>
      have hex : ∃ f ∈ fs, g.same f r = true := by
        obtain ⟨f', hf', hsame⟩ := h
        rcases List.mem_cons.mp hf' with rfl | hf'
        · rw [hfr] at hsame
          cases hsame
        · exact ⟨f', hf', hsame⟩
      simp only [Bool.false_and, Bool.false_eq_true, if_false]
      rcases ih hexact.2 hfs.2 hex skip with ⟨gs', hadd, hgs'⟩ | ⟨e, hadd, f', hf', hfold⟩
      · left
        rw [hadd]
        exact ⟨(key, group) :: gs', rfl, .cons (hp.append_of_not_same hfr) hgs'⟩
      · right
        rw [hadd]
        exact ⟨e, rfl, f', List.mem_cons_of_mem f hf', hfold⟩

/-- A table holds the groups of the rows that were added. -/
structure Holds (g : Grouping) (t : GroupTable) (seen : List Row) : Prop where
  rows_eq : t.rows = seen.length
  groups : List.Forall₂ (Tracks g seen) (g.firstRows seen) t.groups

lemma holds_empty (g : Grouping) : Holds g {} [] := ⟨rfl, .nil⟩

/-- Adding a row keeps a table true to the rows seen, or the group of that row fails. -/
lemma add_spec {t : GroupTable} (h : Holds g t seen) (hexact : ∀ a ∈ seen, g.Exact a)
    (hr : g.Exact r) (probing : Probing) :
    (∃ t', t.add probing g r = .ok t' ∧ Holds g t' (seen ++ [r])) ∨
      ∃ e, t.add probing g r = .error e ∧ ∃ f ∈ g.firstRows (seen ++ [r]),
        g.foldGroup f (g.members (seen ++ [r]) f) = .error e := by
  -- either the first row of the group of `r` is in the table, or `r` is the first row of a new group
  by_cases hseen : ∃ a ∈ seen, g.same a r = true
  · obtain ⟨a, ha, hsame⟩ := hseen
    have hfirst : ∃ f ∈ g.firstRows seen, g.same f r = true := by
      obtain ⟨f, hf, hfa⟩ := Grouping.exists_first hexact ha
      have hf' := hexact f (Grouping.mem_of_mem_firstRows hf)
      exact ⟨f, hf, by rw [Grouping.same_congr_left hf' (hexact a ha) hr hfa, hsame]⟩
    have hexact' (f : Row) (hf : f ∈ g.firstRows seen) : g.Exact f :=
      hexact f (Grouping.mem_of_mem_firstRows hf)
    rw [Grouping.firstRows_append_of_same hexact hr ha hsame]
    rcases addTo_of_same h.groups hexact' hr (Grouping.pairwise_firstRows hexact) hfirst
      (probing (t.groups.map (·.1)) (g.keyOf r)) with
      ⟨gs', hadd, hgs'⟩ | ⟨e, hadd, hfail⟩
    · left
      refine ⟨⟨gs', t.rows + 1⟩, by rw [add, hadd], by simp [h.rows_eq], ?_⟩
      rwa [Grouping.firstRows_append_of_same hexact hr ha hsame]
    · right
      exact ⟨e, by rw [add, hadd], hfail⟩
  · have hnew (a : Row) (ha : a ∈ seen) : g.same a r = false :=
      Bool.eq_false_iff.mpr fun h => hseen ⟨a, ha, h⟩
    have hfirsts := Grouping.firstRows_append_of_not_same hexact hr hnew
    have hmembers : g.members (seen ++ [r]) r = [r] := by
      have hnone : g.members seen r = [] := by
        refine List.filter_eq_nil_iff.mpr fun a ha => ?_
        rw [Grouping.same_comm hr (hexact a ha), hnew a ha]
        exact Bool.false_ne_true
      rw [Grouping.members_append, hnone]
      simp [Grouping.members, Grouping.same_self hr]
    have hadd := addTo_of_not_same h.groups
      (fun f hf => hnew f (Grouping.mem_of_mem_firstRows hf))
      (probing (t.groups.map (·.1)) (g.keyOf r))
    rw [Grouping.start_eq_foldGroup, ← hmembers] at hadd
    cases hfold : g.foldGroup r (g.members (seen ++ [r]) r) with
    | error e =>
      right
      refine ⟨e, ?_, r, ?_, hfold⟩
      · rw [add, hadd, hfold]
      · rw [hfirsts]
        exact List.mem_append_right _ List.mem_cons_self
    | ok group =>
      left
      refine ⟨⟨t.groups ++ [(g.keyOf r, group)], t.rows + 1⟩, ?_, by simp [h.rows_eq], ?_⟩
      · rw [add, hadd, hfold]
      · rw [hfirsts]
        refine List.rel_append ?_ (.cons ⟨rfl, hfold⟩ .nil)
        exact tracks_append_of_not_same h.groups fun f hf =>
          hnew f (Grouping.mem_of_mem_firstRows hf)

end GroupTable

end Confluence
