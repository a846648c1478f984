import Confluence.Cell.Json
import Confluence.Config.Basic
import Confluence.Json.Fields
import Confluence.Shape.Json

/-!
# Configurations in JSON

Fields that are missing have their default values.
-/

namespace Confluence

open Json

def Config.toJson (c : Config) : Json :=
  .object [("max_rows_buffered", .integer c.maxRowsBuffered.toNat),
    ("stream_group_by", .bool c.streamGroupBy), ("avg_scale", .integer c.averageScale.val),
    ("default_dialect", .string c.defaultDialect.tag)]

def Config.ofJson? (v : Json) : Option Config := do
  let fields ← v.fields?
  let d : Config := {}
  let maxRowsBuffered ← withDefault fields "max_rows_buffered" d.maxRowsBuffered toUInt64?
  let streamGroupBy ← withDefault fields "stream_group_by" d.streamGroupBy toBool?
  let averageScale ← withDefault fields "avg_scale" d.averageScale Decimal.Scale.ofJson?
  let defaultDialect ← withDefault fields "default_dialect" d.defaultDialect Dialect.ofJson?
  some { maxRowsBuffered, streamGroupBy, averageScale, defaultDialect }

end Confluence
