import Confluence.Cursor.Source

/-!
# Opening a merged cursor

A merge reads the labels of its sources, binds the shape to them, and chooses a strategy. No row is
read. If that fails, every source is closed before the failure is reported.
-/

namespace Confluence.Cursor

variable {σ : Type} [RowSource σ]

/-- Sources as shards, numbered from `first`. -/
def numberShards (first : Nat) : List σ → List (Shard σ)
  | [] => []
  | s :: ss => { number := first, source := s } :: numberShards (first + 1) ss

/-- Check that every shard has the columns of the first one. -/
def checkShards (x : LabelIndex) : List (Shard σ) → Except Failure Unit
  | [] => .ok ()
  | s :: ss =>
    match x.checkSource s.number s.source with
    | .error e => .error e
    | .ok () => checkShards x ss

/-- The labels that all shards agree on. -/
def agreedLabels : List (Shard σ) → Except Failure LabelIndex
  | [] => .error (.configuration "no row sources to merge")
  | s :: ss =>
    match LabelIndex.ofSource s.source with
    | .error e => .error (e.within "stage=bind, shard=0")
    | .ok x =>
      match checkShards x ss with
      | .error e => .error e
      | .ok () => .ok x

/-- The column that shows the row number, if the pagination exposes it under a label, and the labels
with it. A column that has the label already shows the row number instead of its own values;
otherwise a column is added behind the others. -/
def placeRowNumber (x : LabelIndex) (p : Option Pagination) (label : Option String) :
    LabelIndex × Option Nat :=
  match label, p with
  | some label, some p =>
    if p.exposesRowNumber then
      match x.position? label with
      | some i => (x, some i)
      | none => (.ofLabels (x.labels ++ [label]), some (x.size + 1))
    else (x, none)
  | _, _ => (x, none)

/-- The pagination of a shape. -/
def paginationOf (config : Config) (shape : Shape) : Option Pagination :=
  shape.limit.bind fun l => Pagination.ofLimit? l (l.dialect.getD config.defaultDialect)

/-- The cursor over shards whose labels and bound shape are known. -/
def assemble (config : Config) (shape : Shape) (shards : List (Shard σ)) (x : LabelIndex)
    (b : BoundShape) : Cursor σ :=
  let pagination := paginationOf config shape
  let (labels, rowNumberColumn) :=
    placeRowNumber x pagination (shape.limit.bind (·.rowNumberLabel))
  { shards, labels, sourceColumns := x.size,
    merger := .start config b (Strategy.choose config b), pagination, rowNumberColumn }

/-- Plan the merge of some shards. -/
def plan (config : Config) (shape : Shape) (shards : List (Shard σ)) :
    Except Failure (Cursor σ) :=
  match agreedLabels shards with
  | .error e => .error e
  | .ok x =>
    match BoundShape.bind x shape with
    | .error e => .error e
    | .ok b => .ok (assemble config shape shards x b)

/-- Merge sources into one cursor. With a failure come the sources, which are closed. -/
def merge (config : Config) (shape : Shape) (sources : List σ) :
    Except (Failure × List σ) (Cursor σ) :=
  let shards := numberShards 0 sources
  match plan config shape shards with
  | .ok c => .ok c
  | .error e => .error (e, (closeShards shards).2.map (·.source))

end Confluence.Cursor
