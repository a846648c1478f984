import Confluence.Proofs.Json.Text
import Confluence.Proofs.Shape.Json

/-!
# Shapes survive their JSON texts

The form of a shape is plain, and nests two levels deeper for each level of aggregates that are
derived from one another. Every codec therefore reads a shape back from its text, if it sets no limit
to how deep a value may nest; with a limit of 127 levels it does so for 61 levels of derived
aggregates.
-/

namespace Confluence

open Json

/-! ### Optional and listed values -/

namespace Json

variable {α : Type} {write : α → Json}

lemma depth_optional_le {n : Nat} (h : ∀ a, (write a).depth ≤ n) (a : Option α) :
    (Json.optional write a).depth ≤ n := by
  cases a with
  | none => exact Nat.zero_le n
  | some a => exact h a

lemma depthOfItems_map_le {n : Nat} (h : ∀ a, (write a).depth ≤ n) (as : List α) :
    depthOfItems (as.map write) ≤ n := by
  induction as with
  | nil => exact Nat.zero_le n
  | cons a as ih =>
    rw [List.map_cons, depthOfItems]
    exact Nat.max_le.mpr ⟨h a, ih⟩

lemma isPlain_optional (h : ∀ a, (write a).isPlain = true) (a : Option α) :
    (Json.optional write a).isPlain = true := by
  cases a with
  | none => rfl
  | some a => exact h a

lemma allPlain_map (h : ∀ a, (write a).isPlain = true) (as : List α) :
    allPlain (as.map write) = true := by
  induction as with
  | nil => rfl
  | cons a as ih => rw [List.map_cons, allPlain, h, ih, Bool.and_self]

end Json

/-! ### How deep forms nest -/

mutual

/-- How many levels of aggregates are derived from an aggregate, each from the one above. -/
def Aggregate.levels : Aggregate → Nat
  | ⟨_, _, _, derived⟩ => Aggregate.levelsOf derived

/-- How many levels of aggregates there are, the given ones being the first. -/
def Aggregate.levelsOf : List Aggregate → Nat
  | [] => 0
  | a :: as => max (a.levels + 1) (Aggregate.levelsOf as)

end

lemma ColumnRef.depth_toJson (c : ColumnRef) : c.toJson.depth = 1 := by
  cases c <;> rfl

lemma SortTerm.depth_toJson (t : SortTerm ColumnRef) : t.toJson.depth = 2 := by
  simp [toJson, depth, depthOfFields, ColumnRef.depth_toJson]

namespace Aggregate

mutual

lemma depth_toJson : (a : Aggregate) → a.toJson.depth = 2 * a.levels + 2
  | ⟨function, output, source, derived⟩ => by
    simp only [toJson, depth, depthOfFields, ColumnRef.depth_toJson, depthOfItems_listToJson derived,
      levels]
    omega

lemma depthOfItems_listToJson : (as : List Aggregate) →
    depthOfItems (listToJson as) = 2 * levelsOf as
  | [] => rfl
  | a :: as => by
    rw [listToJson, depthOfItems, levelsOf, depth_toJson a, depthOfItems_listToJson as]
    omega

end

end Aggregate

lemma Limit.depth_toJson_le (l : Limit) : l.toJson.depth ≤ 2 := by
  have hbound (b : RowBound) : b.toJson.depth ≤ 1 := Nat.le_refl 1
  have hdialect (d : Dialect) : (Json.string d.tag).depth ≤ 0 := Nat.le_refl 0
  have hlabel (s : String) : (Json.string s).depth ≤ 0 := Nat.le_refl 0
  have hoffset := depth_optional_le hbound l.offset
  have hcount := depth_optional_le hbound l.rowCount
  have hdialect := depth_optional_le hdialect l.dialect
  have hlabel := depth_optional_le hlabel l.rowNumberLabel
  simp only [toJson, depth, depthOfFields]
  omega

/-- How many levels of aggregates a shape has. -/
def Shape.levels (s : Shape) : Nat := Aggregate.levelsOf s.aggregates

lemma Shape.depth_toJson_le (s : Shape) : s.toJson.depth ≤ max 4 (2 * s.levels + 2) := by
  have hterm (t : SortTerm ColumnRef) : t.toJson.depth ≤ 2 := Nat.le_of_eq t.depth_toJson
  have hgroup := depthOfItems_map_le hterm s.groupBy
  have horder := depthOfItems_map_le hterm s.orderBy
  have hlimit := depth_optional_le Limit.depth_toJson_le s.limit
  simp only [toJson, depth, depthOfFields, Aggregate.depthOfItems_listToJson, levels]
  omega

/-! ### Forms are plain -/

lemma ColumnRef.isPlain_toJson (c : ColumnRef) : c.toJson.isPlain = true := by
  cases c with
  | index n =>
    have hn : n.toNat < twoTo 64 := n.toNat_lt
    simp [toJson, isPlain, allFieldsPlain, hn]
  | label s => rfl

lemma SortTerm.isPlain_toJson (t : SortTerm ColumnRef) : t.toJson.isPlain = true := by
  simp [toJson, isPlain, allFieldsPlain, ColumnRef.isPlain_toJson]

namespace Aggregate

mutual

lemma isPlain_toJson : (a : Aggregate) → a.toJson.isPlain = true
  | ⟨function, output, source, derived⟩ => by
    simp [toJson, isPlain, allFieldsPlain, ColumnRef.isPlain_toJson, allPlain_listToJson derived]

lemma allPlain_listToJson : (as : List Aggregate) → allPlain (listToJson as) = true
  | [] => rfl
  | a :: as => by
    rw [listToJson, allPlain, isPlain_toJson a, allPlain_listToJson as, Bool.and_self]

end

end Aggregate

lemma RowBound.isPlain_toJson (b : RowBound) : b.toJson.isPlain = true := by
  have hvalue : b.value.toNat < twoTo 64 := b.value.toNat_lt
  simp [toJson, isPlain, allFieldsPlain, hvalue]

lemma Limit.isPlain_toJson (l : Limit) : l.toJson.isPlain = true := by
  have hoffset := isPlain_optional RowBound.isPlain_toJson l.offset
  have hcount := isPlain_optional RowBound.isPlain_toJson l.rowCount
  have hdialect : (Json.optional (fun d : Dialect => .string d.tag) l.dialect).isPlain = true :=
    isPlain_optional (fun _ => rfl) l.dialect
  have hlabel : (Json.optional Json.string l.rowNumberLabel).isPlain = true :=
    isPlain_optional (fun _ => rfl) l.rowNumberLabel
  simp [toJson, isPlain, allFieldsPlain, hoffset, hcount, hdialect, hlabel]

lemma Shape.isPlain_toJson (s : Shape) : s.toJson.isPlain = true := by
  have hgroup := allPlain_map SortTerm.isPlain_toJson s.groupBy
  have horder := allPlain_map SortTerm.isPlain_toJson s.orderBy
  have hlimit := isPlain_optional Limit.isPlain_toJson s.limit
  simp [toJson, isPlain, allFieldsPlain, Aggregate.allPlain_listToJson, hgroup, horder, hlimit]

/-! ### Reading what was written -/

namespace Shape

variable {C : Codec}

lemma takes_toJson {s : Shape} (h : ∀ l ∈ C.limit, max 4 (2 * s.levels + 2) ≤ l) :
    C.Takes s.toJson := fun l hl => Nat.le_trans s.depth_toJson_le (h l hl)

/-- A shape is read back from its text, whatever codec writes and reads it: at any depth if the codec
sets no limit, and else if its levels of aggregates are within the limit. The same shape is read from
every form in which any optional fields that hold their defaults were left out and any fields without
a meaning were added, at any depth: from the form itself, from the text that the codec writes for it,
and from every other text that is read as this form. -/
theorem read_from_restated_form (hC : C.Faithful) (s : Shape) :
    ((∀ l ∈ C.limit, max 4 (2 * s.levels + 2) ≤ l) → decode? C (s.encode C) = some s) ∧
      ∀ v, Relation.ReflTransGen (ShapeObject.Restates .shape) s.toJson v →
        ofJson? v = some s ∧
        (v.isPlain = true → C.Takes v → decode? C (C.write v) = some s) ∧
        ∀ t, C.read t = some v → decode? C t = some s := by
  have hform (v : Json) (h : Relation.ReflTransGen (ShapeObject.Restates .shape) s.toJson v) :
      ofJson? v = some s := (ofJson?_of_restates h).trans s.ofJson?_toJson
  have htext {v : Json} (h : Relation.ReflTransGen (ShapeObject.Restates .shape) s.toJson v)
      {t : String} (ht : C.read t = some v) : decode? C t = some s := by
    rw [decode?, ht, Option.bind_some]
    exact hform v h
  refine ⟨fun hlimit => ?_, fun v h => ⟨hform v h, fun hplain htakes => ?_, fun t => htext h⟩⟩
  · exact htext .refl (hC.read_write s.isPlain_toJson (takes_toJson hlimit))
  · exact htext h (hC.read_write hplain htakes)

/-- An average over a column at the last position that there can be, below a limit: an empty list
and a bound's default are left out, and a derived aggregate and the limit have fields that only
other objects give a meaning to. The reader takes values of up to 127 levels. -/
theorem read_from_restated_form_of_average :
    let C := compactCodec (some 127)
    let s : Shape :=
      { aggregates := [.average (.label "pay") (.index 2) (.index 18446744073709551615)]
        limit := some { offset := some { value := 5 }, dialect := some .top } }
    let v : Json := .object [("group_by", .array []),
      ("aggregations", .array [.object [("function", .string "AVG"),
        ("output", .object [("label", .string "pay")]),
        ("source", .object [("label", .string "pay")]),
        ("derived", .array [
          .object [("function", .string "SUM"), ("output", .object [("index", .integer 2)]),
            ("source", .object [("index", .integer 2)]), ("derived", .array [])],
          .object [("function", .string "COUNT"),
            ("output", .object [("index", .integer 18446744073709551615)]),
            ("source", .object [("index", .integer 18446744073709551615)]),
            ("column", .null), ("derived", .array [])]])]]),
      ("limit", .object [("inclusive", .bool true), ("offset", .object [("value", .integer 5)]),
        ("row_count", .null), ("dialect", .string "top-plus-row-number"),
        ("row_number_label", .null)])]
    decode? C (s.encode C) = some s ∧
      Relation.ReflTransGen (ShapeObject.Restates .shape) s.toJson v ∧
        decode? C (C.write v) = some s := by
  intro C s v
  have hC := faithful_compactCodec (some 127)
  have h : Relation.ReflTransGen (ShapeObject.Restates .shape) s.toJson v := by
    refine .head (.shorten .shape "order_by" (.array []) _ rfl rfl) ?_
    refine .head (.object .shape .limit "limit" _ _ [_, _] [] rfl
      (.object .limit .bound "offset" _ _ [] [_, _, _] rfl
        (.shorten .bound "inclusive" (.bool false) _ rfl rfl))) ?_
    refine .head (.object .shape .limit "limit" _ _ [_, _] [] rfl
      (.extend .limit "inclusive" (.bool true) [] _ (by decide))) ?_
    refine .single (.item .shape .aggregate "aggregations" _ _ [_] [_] [] [] rfl
      (.item .aggregate .aggregate "derived" _ _ [_, _, _] [] [_] [] rfl
        (.extend .aggregate "column" .null [_, _, _] [_] (by decide))))
  obtain ⟨hread, hrestated⟩ := read_from_restated_form hC s
  have htakes : C.Takes v := by
    rintro l ⟨⟩
    decide
  have hlevels : ∀ l ∈ C.limit, max 4 (2 * s.levels + 2) ≤ l := by
    rintro l ⟨⟩
    decide
  exact ⟨hread hlevels, h, (hrestated v h).2.1 (by decide) htakes⟩

end Shape

end Confluence
