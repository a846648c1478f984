import Confluence.Shape.Json
import Mathlib.Logic.Relation
import Mathlib.Tactic.Common

/-!
# Shapes survive their JSON form

A shape is read back from its JSON form. It is also read back after any optional fields that hold
their defaults were left out and any fields without a meaning were added, in every object of the
form: one such change, made anywhere in any JSON value, changes nothing of what is read.
-/

namespace Confluence

/-! ### Fields -/

namespace Json

variable {name name' : String} {v : Json} {fields pre post : List (String × Json)}

lemma lookup_append (name : String) (pre post : List (String × Json)) :
    lookup name (pre ++ post) = (lookup name post).or (lookup name pre) := by
  induction pre with
  | nil => rw [List.nil_append, lookup, Option.or_none]
  | cons field pre ih =>
    rw [List.cons_append, lookup, ih, lookup]
    cases lookup name post <;> rfl

lemma lookup_cons_of_ne (h : name' ≠ name) :
    lookup name ((name', v) :: fields) = lookup name fields := by
  rw [lookup, if_neg h]
  cases lookup name fields <;> rfl

/-- A field of another name changes nothing. -/
lemma lookup_append_cons_of_ne (h : name' ≠ name) :
    lookup name (pre ++ (name', v) :: post) = lookup name (pre ++ post) := by
  rw [lookup_append, lookup_append, lookup_cons_of_ne h]

/-- A field has its value, unless a later one has the same name. -/
lemma lookup_append_cons_self (name : String) (pre post : List (String × Json)) :
    (∀ v, lookup name (pre ++ (name, v) :: post) = some v) ∨
      ∀ v w, lookup name (pre ++ (name, v) :: post) = lookup name (pre ++ (name, w) :: post) := by
  cases h : lookup name post with
  | none =>
    left
    intro v
    rw [lookup_append, lookup, h]
    simp
  | some u =>
    right
    intro v w
    rw [lookup_append, lookup_append, lookup, lookup, h]

lemma lookup_filter_ne (fields : List (String × Json)) :
    lookup name (fields.filter (·.1 ≠ name)) = none := by
  induction fields with
  | nil => rfl
  | cons field fields ih =>
    rw [List.filter_cons]
    split
    next h => rw [lookup_cons_of_ne (of_decide_eq_true h), ih]
    next => exact ih

lemma lookup_filter_ne_of_ne (h : name' ≠ name) (fields : List (String × Json)) :
    lookup name' (fields.filter (·.1 ≠ name)) = lookup name' fields := by
  induction fields with
  | nil => rfl
  | cons field fields ih =>
    rw [List.filter_cons]
    split
    next => rw [lookup, lookup, ih]
    next hfield =>
      have hname : field.1 = name := by simpa using hfield
      rw [ih, lookup_cons_of_ne (hname.trans_ne h.symm)]

/-- An array in which one item is replaced by one that is read alike. -/
lemma listOf_replace {α : Type} {read : Json → Option α} {v w : Json} (h : read w = read v)
    (pre post : List Json) :
    listOf read (.array (pre ++ w :: post)) = listOf read (.array (pre ++ v :: post)) := by
  simp only [listOf, toList?, Option.bind_some, List.mapM_append, List.mapM_cons, h]

lemma toUInt64?_integer (n : UInt64) : toUInt64? (.integer n.toNat) = some n := by
  have hn : n.toNat < twoTo 64 := n.toNat_lt
  have hrange : (0 : Int) ≤ n.toNat ∧ (n.toNat : Int) < twoTo 64 := by omega
  rw [toUInt64?, toNatBelow?, if_pos hrange, Option.map_some, Int.toNat_natCast, UInt64.ofNat_toNat]

lemma mapM_map_some {α : Type} {write : α → Json} {read : Json → Option α}
    (h : ∀ a, read (write a) = some a) (as : List α) : (as.map write).mapM read = some as := by
  induction as with
  | nil => rfl
  | cons a as ih =>
    rw [List.map_cons, List.mapM_cons, h, ih]
    rfl

end Json

/-! ### Reading what was written -/

lemma Direction.ofJson?_tag (d : Direction) : ofJson? (.string d.tag) = some d := by
  cases d <;> decide

lemma NullPlacement.ofJson?_tag (p : NullPlacement) : ofJson? (.string p.tag) = some p := by
  cases p <;> decide

lemma AggregateFunction.ofJson?_name (f : AggregateFunction) :
    ofJson? (.string f.name) = some f := by
  cases f <;> decide

lemma Dialect.ofJson?_tag (d : Dialect) : ofJson? (.string d.tag) = some d := ofTag?_tag d

lemma ColumnRef.ofJson?_toJson (c : ColumnRef) : ofJson? c.toJson = some c := by
  cases c with
  | index n => simp [toJson, ofJson?, Json.toUInt64?_integer]
  | label s => simp [toJson, ofJson?, Json.toString?]

namespace Json

variable {α : Type} {write : α → Json} {read : Json → Option α} {fields : List (String × Json)}
  {name : String} {v : Json}

lemma required_eq (h : lookup name fields = some v) : required fields name read = read v := by
  rw [required, h, Option.bind_some]

lemma withDefault_eq_elim {d : α} :
    withDefault fields name d read = (lookup name fields).elim (some d) read := by
  rw [withDefault]
  cases lookup name fields <;> rfl

lemma withDefault_eq {d : α} (h : lookup name fields = some v) :
    withDefault fields name d read = read v := by
  rw [withDefault_eq_elim, h, Option.elim_some]

/-- What a field holds that may be null. -/
def orNull (read : Json → Option α) : Json → Option (Option α)
  | .null => some none
  | v => (read v).map some

lemma orNull_of_ne_null (h : v ≠ .null) : orNull read v = (read v).map some := by
  cases v with
  | null => exact absurd rfl h
  | _ => rfl

/-- A field that may be null is one with a default. -/
lemma nullable_eq_withDefault :
    nullable fields name read = withDefault fields name none (orNull read) := by
  rw [nullable, withDefault]
  cases lookup name fields with
  | none => rfl
  | some v => cases v <;> rfl

/-- A field that may be null is read back if no value is written as null. -/
lemma nullable_optional {a : Option α} (h : lookup name fields = some (optional write a))
    (hread : ∀ a, read (write a) = some a) (hnull : ∀ a, write a ≠ .null) :
    nullable fields name read = some a := by
  rw [nullable_eq_withDefault, withDefault_eq h]
  cases a with
  | none => rfl
  | some a => rw [optional, orNull_of_ne_null (hnull a), hread, Option.map_some]

end Json

open Json

lemma SortTerm.ofJson?_toJson (t : SortTerm ColumnRef) : ofJson? t.toJson = some t := by
  rw [toJson, ofJson?, fields?, Option.bind_eq_bind, Option.bind_some, required_eq rfl,
    required_eq rfl, required_eq rfl, ColumnRef.ofJson?_toJson, Direction.ofJson?_tag,
    NullPlacement.ofJson?_tag]
  rfl

lemma RowBound.ofJson?_toJson (b : RowBound) : ofJson? b.toJson = some b := by
  rw [toJson, ofJson?, fields?, Option.bind_eq_bind, Option.bind_some, required_eq rfl,
    withDefault_eq rfl, toUInt64?_integer]
  rfl

lemma Limit.ofJson?_toJson (l : Limit) : ofJson? l.toJson = some l := by
  rw [toJson, ofJson?, fields?, Option.bind_eq_bind, Option.bind_some,
    nullable_optional rfl RowBound.ofJson?_toJson fun _ => nofun,
    nullable_optional rfl RowBound.ofJson?_toJson fun _ => nofun,
    nullable_optional rfl Dialect.ofJson?_tag fun _ => nofun,
    @nullable_optional _ Json.string toString? _ _ _ rfl (fun _ => rfl) fun _ => nofun]
  rfl

namespace Aggregate

lemma listOfJson?_eq (items : List Json) : listOfJson? items = items.mapM ofJson? := by
  induction items with
  | nil => rw [listOfJson?, List.mapM_nil]; rfl
  | cons v items ih =>
    rw [listOfJson?, List.mapM_cons, ih]
    cases ofJson? v with
    | none => rfl
    | some a => cases items.mapM ofJson? <;> rfl

lemma derivedOfJson?_eq : derivedOfJson? = listOf ofJson? := by
  funext v
  cases v with
  | array items =>
    rw [derivedOfJson?, listOfJson?_eq]
    rfl
  | _ => rfl

lemma derivedOfFields_eq (fields : List (String × Json)) :
    derivedOfFields fields = (lookup "derived" fields).map (listOf ofJson?) := by
  induction fields with
  | nil => rw [derivedOfFields]; rfl
  | cons field fields ih =>
    rw [derivedOfFields, ih, lookup, derivedOfJson?_eq]
    cases lookup "derived" fields with
    | some v => rfl
    | none =>
      rw [Option.map_none]
      by_cases hname : field.1 = "derived"
      · simp only [if_pos hname, Option.map_some]
      · simp only [if_neg hname, Option.map_none]

/-- The derived aggregates are a field like any other. -/
lemma ofJson?_object (fields : List (String × Json)) :
    ofJson? (.object fields) = (do
      let function ← required fields "function" AggregateFunction.ofJson?
      let output ← required fields "output" ColumnRef.ofJson?
      let source ← required fields "source" ColumnRef.ofJson?
      let derived ← withDefault fields "derived" [] (listOf ofJson?)
      some ⟨function, output, source, derived⟩) := by
  rw [ofJson?, derivedOfFields_eq, withDefault]
  cases lookup "derived" fields <;> rfl

mutual

lemma ofJson?_toJson : (a : Aggregate) → ofJson? a.toJson = some a
  | ⟨function, output, source, derived⟩ => by
    rw [toJson, ofJson?_object, required_eq rfl, required_eq rfl, required_eq rfl,
      withDefault_eq rfl, AggregateFunction.ofJson?_name, ColumnRef.ofJson?_toJson,
      ColumnRef.ofJson?_toJson, listOf, toList?, Option.bind_some, mapM_listToJson derived]
    rfl

lemma mapM_listToJson : (as : List Aggregate) → (listToJson as).mapM ofJson? = some as
  | [] => by rw [listToJson, List.mapM_nil]; rfl
  | a :: as => by
    rw [listToJson, List.mapM_cons, ofJson?_toJson a, mapM_listToJson as]
    rfl

end

end Aggregate

lemma Shape.ofJson?_toJson (s : Shape) : ofJson? s.toJson = some s := by
  rw [toJson, ofJson?, fields?, Option.bind_eq_bind, Option.bind_some, withDefault_eq rfl,
    withDefault_eq rfl, withDefault_eq rfl,
    nullable_optional rfl Limit.ofJson?_toJson fun _ => nofun, Aggregate.derivedOfJson?_eq, listOf,
    listOf, listOf, toList?, toList?, toList?, Option.bind_some, Option.bind_some, Option.bind_some,
    mapM_map_some SortTerm.ofJson?_toJson, mapM_map_some SortTerm.ofJson?_toJson,
    Aggregate.mapM_listToJson]
  rfl

/-! ### The objects of a shape -/

/-- The kinds of objects that the JSON form of a shape is made of. -/
inductive ShapeObject where
  | shape
  | term
  | aggregate
  | limit
  | bound

namespace ShapeObject

/-- The fields that have a meaning. -/
def names : ShapeObject → List String
  | .shape => ["group_by", "order_by", "aggregations", "limit"]
  | .term => ["column", "direction", "nulls_order"]
  | .aggregate => ["function", "output", "source", "derived"]
  | .limit => ["offset", "row_count", "dialect", "row_number_label"]
  | .bound => ["value", "inclusive"]

/-- The fields that are optional, each with its default. -/
def defaults : ShapeObject → List (String × Json)
  | .shape => [("group_by", .array []), ("order_by", .array []), ("aggregations", .array []),
      ("limit", .null)]
  | .term => []
  | .aggregate => [("derived", .array [])]
  | .limit => [("offset", .null), ("row_count", .null), ("dialect", .null),
      ("row_number_label", .null)]
  | .bound => [("inclusive", .bool false)]

/-- The fields that hold an object, if they are not null. -/
def objects : ShapeObject → List (String × ShapeObject)
  | .shape => [("limit", .limit)]
  | .limit => [("offset", .bound), ("row_count", .bound)]
  | _ => []

/-- The fields that hold an array of objects. -/
def arrays : ShapeObject → List (String × ShapeObject)
  | .shape => [("group_by", .term), ("order_by", .term), ("aggregations", .aggregate)]
  | .aggregate => [("derived", .aggregate)]
  | _ => []

/-- One change to an object of the JSON form: an optional field that holds its default is left out,
a field without a meaning is added, or an object inside is changed in such a way. -/
inductive Restates : ShapeObject → Json → Json → Prop
  | shorten (k : ShapeObject) (name : String) (v : Json) (fields : List (String × Json))
      (hdefault : k.defaults.lookup name = some v) (hfield : lookup name fields = some v) :
      Restates k (.object fields) (.object (fields.filter (·.1 ≠ name)))
  | extend (k : ShapeObject) (name : String) (v : Json) (pre post : List (String × Json))
      (hname : name ∉ k.names) :
      Restates k (.object (pre ++ post)) (.object (pre ++ (name, v) :: post))
  | object (k m : ShapeObject) (name : String) (v w : Json) (pre post : List (String × Json))
      (hobject : k.objects.lookup name = some m) (h : Restates m v w) :
      Restates k (.object (pre ++ (name, v) :: post)) (.object (pre ++ (name, w) :: post))
  | item (k m : ShapeObject) (name : String) (v w : Json) (pre post : List (String × Json))
      (front back : List Json) (harray : k.arrays.lookup name = some m) (h : Restates m v w) :
      Restates k (.object (pre ++ (name, .array (front ++ v :: back)) :: post))
        (.object (pre ++ (name, .array (front ++ w :: back)) :: post))

/-- Whether two values are read alike where an object of a kind is expected. -/
def ReadAlike : ShapeObject → Json → Json → Prop
  | .shape, v, w => Shape.ofJson? w = Shape.ofJson? v
  | .term, v, w => SortTerm.ofJson? w = SortTerm.ofJson? v
  | .aggregate, v, w => Aggregate.ofJson? w = Aggregate.ofJson? v
  | .limit, v, w => Limit.ofJson? w = Limit.ofJson? v
  | .bound, v, w => RowBound.ofJson? w = RowBound.ofJson? v

/-- How a field of an object and the same field of a changed object can differ. -/
inductive SaysSame (k : ShapeObject) (name : String) : Option Json → Option Json → Prop
  | same (a : Option Json) : SaysSame k name a a
  | missing (v : Json) (hdefault : k.defaults.lookup name = some v) : SaysSame k name (some v) none
  | object (m : ShapeObject) (fields fields' : List (String × Json))
      (hobject : k.objects.lookup name = some m)
      (hread : m.ReadAlike (.object fields) (.object fields')) :
      SaysSame k name (some (.object fields)) (some (.object fields'))
  | item (m : ShapeObject) (v w : Json) (front back : List Json)
      (harray : k.arrays.lookup name = some m) (hread : m.ReadAlike v w) :
      SaysSame k name (some (.array (front ++ v :: back))) (some (.array (front ++ w :: back)))

variable {k m : ShapeObject} {v w : Json} {name : String} {fields fields' : List (String × Json)}

lemma Restates.exists_fields (h : Restates k v w) :
    ∃ fields fields', v = .object fields ∧ w = .object fields' := by
  cases h <;> exact ⟨_, _, rfl, rfl⟩

/-! ### One change -/

/-- A field that is replaced by another one says the same if their values do. -/
lemma saysSame_replace {name' : String} (pre post : List (String × Json))
    (h : SaysSame k name' (some v) (some w)) :
    SaysSame k name (lookup name (pre ++ (name', v) :: post))
      (lookup name (pre ++ (name', w) :: post)) := by
  by_cases hname : name' = name
  · subst hname
    rcases lookup_append_cons_self name' pre post with hself | hother
    · rw [hself, hself]
      exact h
    · rw [hother v w]
      exact .same _
  · rw [lookup_append_cons_of_ne hname, lookup_append_cons_of_ne hname]
    exact .same _

/-- A reader of a field that takes a missing field for its default, and that takes objects and
arrays for what their parts are read as, does not see the difference. -/
lemma SaysSame.congr {β : Type} {a b : Option Json} (h : SaysSame k name a b) (f : Option Json → β)
    (hdefault : ∀ v, k.defaults.lookup name = some v → f none = f (some v))
    (hobject : ∀ m, k.objects.lookup name = some m → ∀ fields fields' : List (String × Json),
      m.ReadAlike (.object fields) (.object fields') →
        f (some (.object fields')) = f (some (.object fields)))
    (harray : ∀ m, k.arrays.lookup name = some m → ∀ v w, m.ReadAlike v w → ∀ front back,
      f (some (.array (front ++ w :: back))) = f (some (.array (front ++ v :: back)))) :
    f b = f a := by
  cases h with
  | same => rfl
  | missing v hv => exact hdefault v hv
  | object m fields fields' hm hread => exact hobject m hm fields fields' hread
  | item m v w front back hm hread => exact harray m hm v w hread front back

section Fields

variable {α : Type} {r : Json → Option α}
  (h : SaysSame k name (lookup name fields) (lookup name fields'))

include h

lemma SaysSame.required_eq (hdefault : k.defaults.lookup name = none)
    (hobject : k.objects.lookup name = none) (harray : k.arrays.lookup name = none) :
    required fields' name r = required fields name r :=
  h.congr (·.bind r) (fun _ hv => nomatch hdefault.symm.trans hv)
    (fun _ hm => nomatch hobject.symm.trans hm) fun _ hm => nomatch harray.symm.trans hm

/-- A field with a default. Where it holds objects, it has to be read alike when they are. -/
lemma SaysSame.withDefault_eq {d : α} (hdefault : k.defaults.lookup name = some v)
    (hread : r v = some d)
    (hobject : ∀ m, k.objects.lookup name = some m → ∀ fields fields' : List (String × Json),
      m.ReadAlike (.object fields) (.object fields') → r (.object fields') = r (.object fields))
    (harray : ∀ m, k.arrays.lookup name = some m → ∀ v w, m.ReadAlike v w → ∀ front back,
      r (.array (front ++ w :: back)) = r (.array (front ++ v :: back))) :
    withDefault fields' name d r = withDefault fields name d r := by
  rw [withDefault_eq_elim, withDefault_eq_elim]
  refine h.congr (·.elim (some d) r) (fun v' hv => ?_) hobject harray
  cases hdefault.symm.trans hv
  exact hread.symm

/-- A field with an array of objects that can be missing. -/
lemma SaysSame.withDefault_listOf_eq (hdefault : k.defaults.lookup name = some (.array []))
    (hobject : k.objects.lookup name = none) (harray : k.arrays.lookup name = some m)
    (hread : ∀ v w, m.ReadAlike v w → r w = r v) :
    withDefault fields' name [] (listOf r) = withDefault fields name [] (listOf r) := by
  refine h.withDefault_eq hdefault rfl (fun _ hm => nomatch hobject.symm.trans hm)
    fun _ hm v w hvw front back => ?_
  cases harray.symm.trans hm
  exact listOf_replace (hread v w hvw) front back

/-- A field that can be null and is not made of objects. -/
lemma SaysSame.nullable_eq (hdefault : k.defaults.lookup name = some .null)
    (hobject : k.objects.lookup name = none) (harray : k.arrays.lookup name = none) :
    nullable fields' name r = nullable fields name r := by
  rw [nullable_eq_withDefault, nullable_eq_withDefault]
  exact h.withDefault_eq hdefault rfl (fun _ hm => nomatch hobject.symm.trans hm)
    fun _ hm => nomatch harray.symm.trans hm

/-- A field that can be null and else is an object. -/
lemma SaysSame.nullable_object_eq (hdefault : k.defaults.lookup name = some .null)
    (hobject : k.objects.lookup name = some m) (harray : k.arrays.lookup name = none)
    (hread : ∀ v w, m.ReadAlike v w → r w = r v) :
    nullable fields' name r = nullable fields name r := by
  rw [nullable_eq_withDefault, nullable_eq_withDefault]
  refine h.withDefault_eq hdefault rfl (fun _ hm fields fields' hfields => ?_)
    fun _ hm => nomatch harray.symm.trans hm
  cases hobject.symm.trans hm
  exact congrArg (Option.map some) (hread _ _ hfields)

end Fields

/-- What an object is read as depends on its fields with a meaning alone. -/
lemma readAlike_of_saysSame
    (h : ∀ name ∈ k.names, SaysSame k name (lookup name fields) (lookup name fields')) :
    k.ReadAlike (.object fields) (.object fields') := by
  cases k with
  | shape =>
    rw [ReadAlike, Shape.ofJson?, Shape.ofJson?, fields?, fields?, Option.bind_eq_bind,
      Option.bind_some, Option.bind_some, Aggregate.derivedOfJson?_eq,
      (h "group_by" (by decide)).withDefault_listOf_eq rfl rfl rfl fun _ _ => id,
      (h "order_by" (by decide)).withDefault_listOf_eq rfl rfl rfl fun _ _ => id,
      (h "aggregations" (by decide)).withDefault_listOf_eq rfl rfl rfl fun _ _ => id,
      (h "limit" (by decide)).nullable_object_eq rfl rfl rfl fun _ _ => id]
  | term =>
    rw [ReadAlike, SortTerm.ofJson?, SortTerm.ofJson?, fields?, fields?, Option.bind_eq_bind,
      Option.bind_some, Option.bind_some, (h "column" (by decide)).required_eq rfl rfl rfl,
      (h "direction" (by decide)).required_eq rfl rfl rfl,
      (h "nulls_order" (by decide)).required_eq rfl rfl rfl]
  | aggregate =>
    rw [ReadAlike, Aggregate.ofJson?_object, Aggregate.ofJson?_object,
      (h "function" (by decide)).required_eq rfl rfl rfl,
      (h "output" (by decide)).required_eq rfl rfl rfl,
      (h "source" (by decide)).required_eq rfl rfl rfl,
      (h "derived" (by decide)).withDefault_listOf_eq rfl rfl rfl fun _ _ => id]
  | limit =>
    rw [ReadAlike, Limit.ofJson?, Limit.ofJson?, fields?, fields?, Option.bind_eq_bind,
      Option.bind_some, Option.bind_some,
      (h "offset" (by decide)).nullable_object_eq rfl rfl rfl fun _ _ => id,
      (h "row_count" (by decide)).nullable_object_eq rfl rfl rfl fun _ _ => id,
      (h "dialect" (by decide)).nullable_eq rfl rfl rfl,
      (h "row_number_label" (by decide)).nullable_eq rfl rfl rfl]
  | bound =>
    have hinclusive : withDefault fields' "inclusive" false toBool? =
        withDefault fields "inclusive" false toBool? :=
      (h "inclusive" (by decide)).withDefault_eq rfl rfl (fun _ => nofun) fun _ => nofun
    rw [ReadAlike, RowBound.ofJson?, RowBound.ofJson?, fields?, fields?, Option.bind_eq_bind,
      Option.bind_some, Option.bind_some, (h "value" (by decide)).required_eq rfl rfl rfl,
      hinclusive]

/-- One change does not change what is read, whether or not anything is read. -/
lemma Restates.readAlike (h : Restates k v w) : k.ReadAlike v w := by
  induction h with
  | shorten k name v fields hdefault hfield =>
    refine readAlike_of_saysSame fun name' _ => ?_
    by_cases hname : name' = name
    · rw [hname, hfield, lookup_filter_ne]
      exact .missing v hdefault
    · rw [lookup_filter_ne_of_ne hname]
      exact .same _
  | extend k name v pre post hname =>
    refine readAlike_of_saysSame fun name' hname' => ?_
    have hne : name ≠ name' := by
      rintro rfl
      exact hname hname'
    rw [lookup_append_cons_of_ne hne]
    exact .same _
  | object k m name v w pre post hobject h ih =>
    obtain ⟨fields, fields', rfl, rfl⟩ := h.exists_fields
    exact readAlike_of_saysSame fun _ _ =>
      saysSame_replace pre post (.object m fields fields' hobject ih)
  | item k m name v w pre post front back harray h ih =>
    exact readAlike_of_saysSame fun _ _ =>
      saysSame_replace pre post (.item m v w front back harray ih)

end ShapeObject

namespace Shape

/-- Any number of changes does not change what is read either. -/
lemma ofJson?_of_restates {v w : Json}
    (h : Relation.ReflTransGen (ShapeObject.Restates .shape) v w) : ofJson? w = ofJson? v := by
  induction h with
  | refl => rfl
  | tail _ hstep ih => exact Eq.trans hstep.readAlike ih

end Shape

end Confluence
