import Confluence.Number.Decimal

/-!
# Cells

A cell is one SQL value as a shard delivers it. Its type says how it is represented, its family
which other values it can be ordered against.
-/

namespace Confluence

/-- The type in which a column is read. `any` leaves a value as the shard produced it. -/
inductive SqlType where
  | any
  | boolean
  | int32
  | int64
  | float64
  | decimal
  | text
  | date
  | timestamp
  | bytes
deriving DecidableEq

/-- The name of a type in messages. -/
def SqlType.name : SqlType → String
  | .any => "ANY"
  | .boolean => "BOOLEAN"
  | .int32 => "INT"
  | .int64 => "BIGINT"
  | .float64 => "FLOAT8"
  | .decimal => "DECIMAL"
  | .text => "TEXT"
  | .date => "DATE"
  | .timestamp => "TIMESTAMP"
  | .bytes => "BYTEA"

/-- A group of types whose values can be ordered against each other. -/
inductive Family where
  | boolean
  | numeric
  | text
  | date
  | timestamp
  | bytes
deriving DecidableEq

/-- The name of a family in messages. -/
def Family.name : Family → String
  | .boolean => "boolean"
  | .numeric => "numeric"
  | .text => "text"
  | .date => "date"
  | .timestamp => "timestamp"
  | .bytes => "bytea"

/-- One SQL value. Dates count days and timestamps microseconds from 1970-01-01. -/
inductive Cell where
  | null
  | boolean (b : Bool)
  | int32 (n : Signed 32)
  | int64 (n : Signed 64)
  | float64 (x : Binary64)
  | decimal (d : Decimal)
  | text (s : String)
  | date (day : Signed 32)
  | timestamp (micros : Signed 64)
  | bytes (bs : List UInt8)
deriving DecidableEq

instance : Inhabited Cell := ⟨.null⟩

/-- The cells of one result row, in column order. -/
abbrev Row := List Cell

/-- The cell of a row at a position counted from 0. Past the end of the row it is NULL. -/
def Row.cell (r : Row) (column : Nat) : Cell := r.getD column .null

namespace Cell

/-- The type of a value; NULL has none. -/
def type? : Cell → Option SqlType
  | .null => none
  | .boolean _ => some .boolean
  | .int32 _ => some .int32
  | .int64 _ => some .int64
  | .float64 _ => some .float64
  | .decimal _ => some .decimal
  | .text _ => some .text
  | .date _ => some .date
  | .timestamp _ => some .timestamp
  | .bytes _ => some .bytes

/-- The family of a value; NULL has none. -/
def family? : Cell → Option Family
  | .null => none
  | .boolean _ => some .boolean
  | .int32 _ | .int64 _ | .float64 _ | .decimal _ => some .numeric
  | .text _ => some .text
  | .date _ => some .date
  | .timestamp _ => some .timestamp
  | .bytes _ => some .bytes

def isNull : Cell → Bool
  | .null => true
  | _ => false

/-- The type of a cell in messages. -/
def typeName (c : Cell) : String :=
  match c.type? with
  | some t => t.name
  | none => "NULL"

/-- The family of a cell in messages. -/
def familyName (c : Cell) : String :=
  match c.family? with
  | some f => f.name
  | none => "NULL"

/-- The number in an integer cell. -/
def toInt64? : Cell → Option (Signed 64)
  | .int32 n => some (n.widen (by decide))
  | .int64 n => some n
  | _ => none

/-- The exact value of an integer or decimal cell. -/
def toDecimal? : Cell → Option Decimal
  | .int32 n => some (.ofSigned n (by decide))
  | .int64 n => some (.ofSigned n (by decide))
  | .decimal d => some d
  | _ => none

/-- The value of a numeric cell in floating point. Trailing zeros of a decimal are dropped before
it is rounded. -/
def toBinary64? : Cell → Option Binary64
  | .int32 n => some (.ofInt n.val)
  | .int64 n => some (.ofInt n.val)
  | .float64 x => some x
  | .decimal d => some d.trim.toBinary64
  | _ => none

/-- The text in a text cell. -/
def toText? : Cell → Option String
  | .text s => some s
  | _ => none

/-- The integer that a cell holds exactly, if it fits in 128 bits: an integer, an integral float
below `2^127` in magnitude, a decimal without a fraction, or the digits of one in a text. -/
def integer? : Cell → Option (Signed 128)
  | .int32 n => some (n.widen (by decide))
  | .int64 n => some (n.widen (by decide))
  | .float64 x => x.integer?.bind fun n =>
      if n.natAbs < twoTo 127 then Signed.ofInt? 128 n else none
  | .decimal d => d.integer?
  | .text s => (Digits.toInt? (Text.trim s.toList)).bind (Signed.ofInt? 128)
  | _ => none

theorem isNull_eq_true_iff {c : Cell} : c.isNull = true ↔ c = .null := by
  cases c <;> simp [isNull]

theorem family?_eq_none_iff {c : Cell} : c.family? = none ↔ c = .null := by
  cases c <;> simp [family?]

end Cell

end Confluence
