import Confluence.Json.Codec
import Confluence.Json.Fields
import Confluence.Shape.Basic

/-!
# Shapes in JSON

A shape is written with all its fields. It is read with any of its optional fields missing, and
fields without a meaning are passed over.
-/

namespace Confluence

open Json

/-! ### Choices -/

def Direction.tag : Direction → String
  | .asc => "asc"
  | .desc => "desc"

def Direction.ofJson? (v : Json) : Option Direction :=
  v.choice?.bind fun s => [Direction.asc, .desc].find? (·.tag = s)

def NullPlacement.tag : NullPlacement → String
  | .first => "first"
  | .last => "last"

def NullPlacement.ofJson? (v : Json) : Option NullPlacement :=
  v.choice?.bind fun s => [NullPlacement.first, .last].find? (·.tag = s)

def AggregateFunction.ofJson? (v : Json) : Option AggregateFunction :=
  v.choice?.bind fun s =>
    [AggregateFunction.count, .sum, .max, .min, .avg].find? (·.name = s)

def Dialect.ofJson? (v : Json) : Option Dialect := v.choice?.bind Dialect.ofTag?

/-! ### Columns and sort terms -/

def ColumnRef.toJson : ColumnRef → Json
  | .index n => .object [("index", .integer n.toNat)]
  | .label s => .object [("label", .string s)]

def ColumnRef.ofJson? : Json → Option ColumnRef
  | .object [(name, v)] =>
    if name = "index" then v.toUInt64?.map .index
    else if name = "label" then v.toString?.map .label
    else none
  | _ => none

def SortTerm.toJson (t : SortTerm ColumnRef) : Json :=
  .object [("column", t.column.toJson), ("direction", .string t.direction.tag),
    ("nulls_order", .string t.nulls.tag)]

def SortTerm.ofJson? (v : Json) : Option (SortTerm ColumnRef) := do
  let fields ← v.fields?
  let column ← required fields "column" ColumnRef.ofJson?
  let direction ← required fields "direction" Direction.ofJson?
  let nulls ← required fields "nulls_order" NullPlacement.ofJson?
  some ⟨column, direction, nulls⟩

/-! ### Aggregates -/

mutual

def Aggregate.toJson : Aggregate → Json
  | ⟨function, output, source, derived⟩ =>
    .object [("function", .string function.name), ("output", output.toJson),
      ("source", source.toJson), ("derived", .array (Aggregate.listToJson derived))]

def Aggregate.listToJson : List Aggregate → List Json
  | [] => []
  | a :: as => a.toJson :: Aggregate.listToJson as

end

mutual

def Aggregate.ofJson? : Json → Option Aggregate
  | .object fields => do
    let function ← required fields "function" AggregateFunction.ofJson?
    let output ← required fields "output" ColumnRef.ofJson?
    let source ← required fields "source" ColumnRef.ofJson?
    let derived ← (Aggregate.derivedOfFields fields).getD (some [])
    some ⟨function, output, source, derived⟩
  | _ => none

/-- What the field with the derived aggregates holds, if there is one; the last one counts. -/
def Aggregate.derivedOfFields : List (String × Json) → Option (Option (List Aggregate))
  | [] => none
  | (name, v) :: r =>
    match Aggregate.derivedOfFields r with
    | some derived => some derived
    | none => if name = "derived" then some (Aggregate.derivedOfJson? v) else none

def Aggregate.derivedOfJson? : Json → Option (List Aggregate)
  | .array items => Aggregate.listOfJson? items
  | _ => none

def Aggregate.listOfJson? : List Json → Option (List Aggregate)
  | [] => some []
  | v :: vs =>
    match Aggregate.ofJson? v with
    | none => none
    | some a => (Aggregate.listOfJson? vs).map (a :: ·)

end

/-! ### Limits and shapes -/

def RowBound.toJson (b : RowBound) : Json :=
  .object [("value", .integer b.value.toNat), ("inclusive", .bool b.inclusive)]

def RowBound.ofJson? (v : Json) : Option RowBound := do
  let fields ← v.fields?
  let value ← required fields "value" toUInt64?
  let inclusive ← withDefault fields "inclusive" false toBool?
  some ⟨value, inclusive⟩

def Limit.toJson (l : Limit) : Json :=
  .object [("offset", optional RowBound.toJson l.offset),
    ("row_count", optional RowBound.toJson l.rowCount),
    ("dialect", optional (fun d => .string d.tag) l.dialect),
    ("row_number_label", optional Json.string l.rowNumberLabel)]

def Limit.ofJson? (v : Json) : Option Limit := do
  let fields ← v.fields?
  let offset ← nullable fields "offset" RowBound.ofJson?
  let rowCount ← nullable fields "row_count" RowBound.ofJson?
  let dialect ← nullable fields "dialect" Dialect.ofJson?
  let rowNumberLabel ← nullable fields "row_number_label" toString?
  some ⟨offset, rowCount, dialect, rowNumberLabel⟩

def Shape.toJson (s : Shape) : Json :=
  .object [("group_by", .array (s.groupBy.map SortTerm.toJson)),
    ("order_by", .array (s.orderBy.map SortTerm.toJson)),
    ("aggregations", .array (Aggregate.listToJson s.aggregates)),
    ("limit", optional Limit.toJson s.limit)]

def Shape.ofJson? (v : Json) : Option Shape := do
  let fields ← v.fields?
  let groupBy ← withDefault fields "group_by" [] (listOf SortTerm.ofJson?)
  let orderBy ← withDefault fields "order_by" [] (listOf SortTerm.ofJson?)
  let aggregates ← withDefault fields "aggregations" [] Aggregate.derivedOfJson?
  let limit ← nullable fields "limit" Limit.ofJson?
  some ⟨groupBy, orderBy, aggregates, limit⟩

/-! ### Texts -/

def Shape.encode (C : Codec) (s : Shape) : String := C.write s.toJson

def Shape.decode? (C : Codec) (t : String) : Option Shape := (C.read t).bind Shape.ofJson?

end Confluence
