import Confluence.Config.Json
import Confluence.Config.Toml
import Confluence.Cursor.Describe
import Confluence.Cursor.Drain
import Confluence.Json.Reader
import Confluence.Json.Writer
import Confluence.Nested
import Confluence.Proofs.Cursor.GroupedStream
import Confluence.Proofs.Cursor.Limited
import Confluence.Proofs.Cursor.Pushdown
import Confluence.Proofs.Cursor.Redistribution
import Confluence.Proofs.Group.Average
import Confluence.Proofs.Nested.Failures
import Confluence.Proofs.Nested.Protocol
import Confluence.Shape.Json
import Confluence.Source.Scripted
import Confluence.Proofs.Cell.Line
import Confluence.Proofs.Sort.Preorder
import Confluence.Proofs.Merge.Concat
import Confluence.Proofs.Cursor.Ungrouped
import Confluence.Proofs.Nested.Flat
import Confluence.Proofs.Group.Partials
import Confluence.Proofs.Group.Hierarchy
import Confluence.Proofs.Cursor.Hierarchy
import Confluence.Proofs.Cell.Trim
import Confluence.Proofs.Cell.Key
import Confluence.Proofs.Group.Promises
import Confluence.Proofs.Merge.Promises
import Confluence.Proofs.Cursor.Phases
import Confluence.Proofs.Cursor.Rows
import Confluence.Proofs.Nested.Promises
import Confluence.Proofs.Cursor.Reading
import Confluence.Proofs.Cell.Sum
import Confluence.Proofs.Cell.Value
import Confluence.Proofs.Sort.Ties
import Confluence.Proofs.Group.Extrema
import Confluence.Proofs.Group.Totals
import Confluence.Proofs.Group.Refusals
import Confluence.Proofs.Number.Numerals
import Confluence.Proofs.Cursor.Concatenation
import Confluence.Proofs.Nested.Coercion
import Confluence.Proofs.Cursor.RowNumber
import Confluence.Proofs.Cursor.Buffered
import Confluence.Proofs.Labels
import Confluence.Proofs.Calendar.Days
import Confluence.Proofs.Calendar.Text
import Confluence.Proofs.Cell.Temporal
import Confluence.Proofs.Sort.Comparable
import Confluence.Proofs.Nested.Provenance
import Confluence.Proofs.Shape.Text
import Confluence.Proofs.Sort.Refused
