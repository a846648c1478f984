import Confluence.Dialect
import Confluence.Group.Key
import Confluence.Number.Decimal

/-!
# Configuration of a merge
-/

namespace Confluence

/-- The number of places of an average of exact numbers, unless a configuration says otherwise. -/
def Config.defaultAverageScale : Decimal.Scale := ⟨4, by decide⟩

structure Config where
  /-- The most rows that may be drained into memory; 0 sets no bound. -/
  maxRowsBuffered : UInt64 := 1000000
  /-- Whether grouped rows that arrive in group order are merged as they come. -/
  streamGroupBy : Bool := true
  /-- The number of places of an average of exact numbers. -/
  averageScale : Decimal.Scale := Config.defaultAverageScale
  /-- The dialect of limits that do not name one. -/
  defaultDialect : Dialect := .unknown
  /-- What the table of a grouped merge does by chance. No setting fixes it. -/
  probing : Probing := fun _ _ => 0

namespace Config

/-- Whether a number of rows in memory is too many. -/
def exceedsBufferLimit (c : Config) (rows : Nat) : Bool :=
  c.maxRowsBuffered ≠ 0 && c.maxRowsBuffered.toNat < rows

end Config

end Confluence
