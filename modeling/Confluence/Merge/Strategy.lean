import Confluence.Merge.Concat
import Confluence.Merge.GroupedMemory
import Confluence.Merge.GroupedStream

/-!
# Strategies

The four ways to merge shards, and the choice among them. Grouped rows are merged as they come only
if they arrive group by group; otherwise they are collected in memory. Ungrouped rows are merged in
order, or concatenated if there is no order.
-/

namespace Confluence

inductive Strategy where
  | concat
  | ordered
  | groupedStream
  | groupedMemory
deriving DecidableEq

namespace Strategy

/-- The name that is shown for a strategy. -/
def name : Strategy → String
  | .concat => "iterator"
  | .ordered => "order-by-stream"
  | .groupedStream => "group-by-stream"
  | .groupedMemory => "group-by-memory"

/-- The strategy for a bound shape. -/
def choose (c : Config) (b : BoundShape) : Strategy :=
  if b.isGrouped then
    if c.streamGroupBy && b.arrivesGrouped then .groupedStream else .groupedMemory
  else if !b.orderBy.isEmpty then .ordered
  else .concat

end Strategy

/-- Where the current row of a merge is: a shard sits on it, or the merge holds a copy. -/
inductive RowPlace where
  | shard (k : Nat)
  | row (r : Row)

/-- A merge under way. -/
inductive Merger where
  | concat (m : ConcatMerge)
  | ordered (m : OrderedMerge)
  | groupedStream (m : GroupedStream)
  | groupedMemory (m : GroupedMemory)

namespace Merger

variable {σ : Type} [RowSource σ]

/-- The merge that a strategy starts with. -/
def start (c : Config) (b : BoundShape) : Strategy → Merger
  | .concat => .concat {}
  | .ordered => .ordered (.new b.orderBy)
  | .groupedStream =>
    .groupedStream { inner := .new b.groupBy, grouping := .ofShape b c.averageScale }
  | .groupedMemory =>
    .groupedMemory
      { config := c, grouping := .ofShape b c.averageScale, order := b.effectiveOrder }

def strategy : Merger → Strategy
  | .concat _ => .concat
  | .ordered _ => .ordered
  | .groupedStream _ => .groupedStream
  | .groupedMemory _ => .groupedMemory

/-- Move to the next row. -/
def advance (m : Merger) (ss : List (Shard σ)) :
    Except Failure Bool × Merger × List (Shard σ) :=
  match m with
  | .concat m => let (r, m, ss) := m.advance ss; (r, .concat m, ss)
  | .ordered m => let (r, m, ss) := m.advance ss; (r, .ordered m, ss)
  | .groupedStream m => let (r, m, ss) := m.advance ss; (r, .groupedStream m, ss)
  | .groupedMemory m => let (r, m, ss) := m.advance ss; (r, .groupedMemory m, ss)

/-- Where the current row is. -/
def current : Merger → Option RowPlace
  | .concat m => m.current.map .shard
  | .ordered m => m.current.map .shard
  | .groupedStream m => m.current.map .row
  | .groupedMemory m => m.current.map .row

def groupsBuilt : Merger → Nat
  | .groupedStream m => m.groupsBuilt
  | .groupedMemory m => m.groupsBuilt
  | .concat _ | .ordered _ => 0

/-! ### Rows to come -/

/-- A bound on the rows still to come. -/
def pending (m : Merger) (ss : List (Shard σ)) : Nat :=
  match m with
  | .concat _ => Shard.totalRemaining ss
  | .ordered m => m.pending ss
  | .groupedStream m => m.pending ss
  | .groupedMemory m => m.pending ss

theorem pending_advance_le (m : Merger) (ss : List (Shard σ)) :
    (m.advance ss).2.1.pending (m.advance ss).2.2 ≤ m.pending ss := by
  cases m with
  | concat m => exact m.totalRemaining_advance_le ss
  | ordered m => exact m.pending_advance_le ss
  | groupedStream m => exact m.pending_advance_le ss
  | groupedMemory m => exact m.pending_advance_le ss

theorem pending_advance_lt (m : Merger) (ss : List (Shard σ)) (h : (m.advance ss).1 = .ok true) :
    (m.advance ss).2.1.pending (m.advance ss).2.2 < m.pending ss := by
  cases m with
  | concat m =>
    exact ConcatMerge.totalRemaining_advance_lt
      (show m.advance ss = (.ok true, (m.advance ss).2) from Prod.ext h rfl)
  | ordered m =>
    exact OrderedMerge.pending_advance_lt
      (show m.advance ss = (.ok true, (m.advance ss).2) from Prod.ext h rfl)
  | groupedStream m =>
    exact GroupedStream.pending_advance_lt
      (show m.advance ss = (.ok true, (m.advance ss).2) from Prod.ext h rfl)
  | groupedMemory m =>
    exact GroupedMemory.pending_advance_lt
      (show m.advance ss = (.ok true, (m.advance ss).2) from Prod.ext h rfl)

end Merger

end Confluence
