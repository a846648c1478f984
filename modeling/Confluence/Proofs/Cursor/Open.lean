import Confluence.Cursor.Open
import Confluence.Proofs.Cursor.View
import Confluence.Proofs.Shape.Bind

/-!
# Opening a merge

Sources with the same labels agree on them, so a merge of such sources opens exactly if its shape
can be bound. Without a limit the cursor has the columns and the labels of its sources, and each
shard is behind the rows that its source has to come. So it is with sources in memory, and with
cursors over them.
-/

namespace Confluence

/-! ### Labels -/

@[simp] lemma unquote_unquote (label : String) : unquote (unquote label) = unquote label := by
  rw [unquote, unquote, String.toList_ofList, List.filter_filter]
  simp

@[simp] lemma foldLabel_unquote (label : String) : foldLabel (unquote label) = foldLabel label := by
  rw [foldLabel, foldLabel, unquote_unquote]

/-- A source whose columns have the given labels, up to quoting. -/
structure Labelled {σ : Type} [RowSource σ] (labels : List String) (s : σ) : Prop where
  columnCount_eq : RowSource.columnCount s = labels.length
  exists_columnLabel {i : Nat} (hi : i < labels.length) :
    ∃ l, RowSource.columnLabel s (i + 1) = .ok l ∧ unquote l = unquote labels[i]

namespace Labelled

variable {σ : Type} [RowSource σ] {labels : List String} {s : σ}

lemma exists_readLabels (h : Labelled labels s) {i k : Nat} (hk : i + k = labels.length) :
    ∃ ls, LabelIndex.readLabels s (i + 1) k = .ok ls ∧
      ls.map unquote = (labels.drop i).map unquote := by
  induction k generalizing i with
  | zero =>
    obtain rfl : i = labels.length := hk
    exact ⟨[], rfl, by rw [List.drop_length]⟩
  | succ k ih =>
    have hi : i < labels.length := by
      rw [← hk]
      exact Nat.lt_add_of_pos_right (Nat.succ_pos k)
    have hk' : i + 1 + k = labels.length := by rw [← hk, Nat.add_assoc, Nat.add_comm 1]
    obtain ⟨l, hl, heq⟩ := h.exists_columnLabel hi
    obtain ⟨ls, hls, hmap⟩ := ih hk'
    refine ⟨l :: ls, by rw [LabelIndex.readLabels, hl, hls], ?_⟩
    rw [List.drop_eq_getElem_cons hi, List.map_cons, List.map_cons, heq, hmap]

lemma ofSource_eq (h : Labelled labels s) : LabelIndex.ofSource s = .ok (.ofLabels labels) := by
  obtain ⟨ls, hls, hmap⟩ := h.exists_readLabels (Nat.zero_add labels.length)
  rw [List.drop_zero] at hmap
  simp only [LabelIndex.ofSource, h.columnCount_eq, hls, LabelIndex.ofLabels, hmap]

lemma checkLabels_eq (h : Labelled labels s) (shard : Nat) {i : Nat} {rest : List String}
    (hrest : labels.drop i = rest) :
    LabelIndex.checkLabels shard s (i + 1) (rest.map unquote) = .ok () := by
  induction rest generalizing i with
  | nil => rfl
  | cons l rest ih =>
    have hi : i < labels.length := by
      rw [← Nat.not_le, ← List.drop_eq_nil_iff, hrest]
      exact List.cons_ne_nil l rest
    obtain ⟨l', hl', heq⟩ := h.exists_columnLabel hi
    rw [List.drop_eq_getElem_cons hi, List.cons.injEq] at hrest
    have hfold : foldLabel l' = foldLabel (unquote l) := by
      rw [← foldLabel_unquote l', heq, hrest.1]
    rw [List.map_cons, LabelIndex.checkLabels, hl']
    simp only [hfold, if_true]
    exact ih hrest.2

lemma checkSource_eq (h : Labelled labels s) (shard : Nat) :
    (LabelIndex.ofLabels labels).checkSource shard s = .ok () := by
  have hcount : RowSource.columnCount s = (LabelIndex.ofLabels labels).size := by
    simp [h.columnCount_eq, LabelIndex.ofLabels, LabelIndex.size]
  rw [LabelIndex.checkSource, if_neg (not_not.mpr hcount)]
  exact h.checkLabels_eq shard (List.drop_zero)

end Labelled

lemma MemorySource.Fresh.labelled {labels : List String} {s : MemorySource}
    (h : s.Fresh labels) : Labelled labels s where
  columnCount_eq := by simp [RowSource.columnCount, columnCount, h.labels_eq]
  exists_columnLabel {i} hi :=
    ⟨labels[i], by simp [RowSource.columnLabel, columnLabel, h.labels_eq, hi], rfl⟩

/-! ### Cursors -/

namespace Cursor

section Opening

variable {σ : Type} [RowSource σ] {labels : List String} {sources : List σ}

/-- A cursor has the labels of its sources, without the characters that quote them. -/
lemma labelled_of_labels_eq {c : Cursor σ} (h : c.labels = .ofLabels labels) :
    Labelled labels c where
  columnCount_eq := by
    simp [RowSource.columnCount, columnCount, h, LabelIndex.ofLabels, LabelIndex.size]
  exists_columnLabel {i} hi :=
    ⟨unquote labels[i], by
      simp [RowSource.columnLabel, columnLabel, h, LabelIndex.ofLabels, LabelIndex.label?, hi],
      unquote_unquote _⟩

lemma checkShards_eq (h : ∀ s ∈ sources, Labelled labels s) (k : Nat) :
    checkShards (.ofLabels labels) (numberShards k sources) = .ok () := by
  induction sources generalizing k with
  | nil => rfl
  | cons s sources ih =>
    rw [List.forall_mem_cons] at h
    rw [numberShards, checkShards, h.1.checkSource_eq]
    exact ih h.2 (k + 1)

lemma agreedLabels_eq (hne : sources ≠ []) (h : ∀ s ∈ sources, Labelled labels s) :
    agreedLabels (numberShards 0 sources) = .ok (.ofLabels labels) := by
  cases sources with
  | nil => exact absurd rfl hne
  | cons s sources =>
    rw [List.forall_mem_cons] at h
    simp only [numberShards, agreedLabels, h.1.ofSource_eq, checkShards_eq h.2]

/-- At the start every shard is behind all rows of its source. -/
lemma queued_of_shows {V : SourceView σ} {queues : List (List Row)}
    (h : List.Forall₂ (fun s q => V.Shows s none q) sources queues) (k : Nat) :
    Queued V.Behind k (numberShards k sources) queues := by
  induction h generalizing k with
  | nil => exact .nil
  | cons hs _ ih => exact .cons ⟨none, rfl, rfl, Or.inl ⟨rfl, hs⟩⟩ (ih (k + 1))

/-- A merge of sources with the same labels whose shape can be bound opens over the merger of its
strategy, in front of the first row. -/
lemma exists_merge_of_labelled (config : Config) {shape : Shape} {b : BoundShape}
    (hne : sources ≠ []) (h : ∀ s ∈ sources, Labelled labels s)
    (hbind : BoundShape.bind (.ofLabels labels) shape = .ok b) (hlimit : shape.limit = none) :
    ∃ c, Cursor.merge config shape sources = .ok c ∧ Labelled labels c ∧ c.phase = .beforeFirst ∧
      c.Over labels.length (.start config b (Strategy.choose config b))
        (numberShards 0 sources) := by
  have hplan : plan config shape (numberShards 0 sources) =
      .ok (assemble config shape (numberShards 0 sources) (.ofLabels labels) b) := by
    simp only [plan, agreedLabels_eq hne h, hbind]
  have hlabels : (assemble config shape (numberShards 0 sources) (.ofLabels labels) b).labels =
      .ofLabels labels := by
    simp [assemble, hlimit, placeRowNumber]
  have hlabelled := labelled_of_labels_eq hlabels
  refine ⟨assemble config shape (numberShards 0 sources) (.ofLabels labels) b, ?_, hlabelled, rfl,
    rfl, rfl, Or.inl rfl, ?_, hlabelled.columnCount_eq⟩
  · simp only [merge, hplan]
  · simp [assemble, paginationOf, hlimit]

/-- A merge of sources with the same labels whose shape cannot be bound does not open. -/
lemma merge_ne_ok_of_labelled (config : Config) {shape : Shape} {e : Failure} (hne : sources ≠ [])
    (h : ∀ s ∈ sources, Labelled labels s)
    (hbind : BoundShape.bind (.ofLabels labels) shape = .error e) (c : Cursor σ) :
    Cursor.merge config shape sources ≠ .ok c := by
  have hplan : plan config shape (numberShards 0 sources) = .error e := by
    simp only [plan, agreedLabels_eq hne h, hbind]
  simp only [merge, hplan]
  rintro ⟨⟩

/-- A merge that was just opened shows the rows that its merger delivers. -/
lemma view_shows_of_over {V : SourceView σ} {c : Cursor σ} {m : Merger} {ss : List (Shard σ)}
    {rows : List Row} (hover : c.Over V.width m ss) (hphase : c.phase = .beforeFirst)
    (h : m.Delivers V none rows ss) : (view V).Shows c none rows := by
  obtain ⟨rfl, rfl, -, hlimit, hcount⟩ := hover
  exact ⟨hlimit, hcount, Or.inl ⟨hphase, h⟩⟩

end Opening

variable {labels : List String} {sources : List MemorySource}

lemma queued_numberShards (h : ∀ s ∈ sources, s.Fresh labels) (k : Nat) :
    Queued (MemorySource.view labels.length).Behind k (numberShards k sources)
      (sources.map (·.rows)) := by
  apply queued_of_shows
  rw [List.forall₂_map_right_iff, List.forall₂_same]
  exact fun s hs => (h s hs).shows

/-- A merge of fresh sources whose shape can be bound opens over the merger of its strategy. -/
lemma exists_merge (config : Config) {shape : Shape} {b : BoundShape} (hne : sources ≠ [])
    (h : ∀ s ∈ sources, s.Fresh labels)
    (hbind : BoundShape.bind (.ofLabels labels) shape = .ok b) (hlimit : shape.limit = none) :
    ∃ c, Cursor.merge config shape sources = .ok c ∧
      c.Over labels.length (.start config b (Strategy.choose config b))
        (numberShards 0 sources) := by
  obtain ⟨c, hmerge, -, -, hover⟩ :=
    exists_merge_of_labelled config hne (fun s hs => (h s hs).labelled) hbind hlimit
  exact ⟨c, hmerge, hover⟩

/-- A merge of fresh sources whose shape cannot be bound does not open. -/
lemma merge_ne_ok (config : Config) {shape : Shape} {e : Failure} (hne : sources ≠ [])
    (h : ∀ s ∈ sources, s.Fresh labels)
    (hbind : BoundShape.bind (.ofLabels labels) shape = .error e) (c : Cursor MemorySource) :
    Cursor.merge config shape sources ≠ .ok c :=
  merge_ne_ok_of_labelled config hne (fun s hs => (h s hs).labelled) hbind c

end Cursor

end Confluence
