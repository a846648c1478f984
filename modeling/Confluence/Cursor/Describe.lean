import Confluence.Cursor.Basic

/-!
# Description of a cursor

The text that shows the state of a cursor to somebody who looks for a fault.
-/

namespace Confluence

/-- The name of a strategy in descriptions. -/
def Strategy.describe : Strategy → String
  | .concat => "Iterator"
  | .ordered => "OrderByStream"
  | .groupedStream => "GroupByStream"
  | .groupedMemory => "GroupByMemory"

/-- The name of a phase in descriptions. -/
def Phase.describe : Phase → String
  | .beforeFirst => "BeforeFirst"
  | .onRow => "OnRow"
  | .exhausted => "Exhausted"
  | .closed => "Closed"

/-- The state of a cursor in one line. -/
def Cursor.describe {σ : Type} (c : Cursor σ) : String :=
  "MergedCursor \x7b strategy: " ++ c.merger.strategy.describe ++
    ", shards: " ++ toString c.shards.length ++
    ", source_columns: " ++ toString c.sourceColumns ++
    ", columns: " ++ toString c.labels.size ++
    ", state: " ++ c.phase.describe ++
    ", stats: MergeStats \x7b rows_emitted: " ++ toString c.rowsEmitted ++
    ", groups_built: " ++ toString c.merger.groupsBuilt ++
    ", sources_closed: " ++ toString c.sourcesClosed ++ " \x7d \x7d"

end Confluence
