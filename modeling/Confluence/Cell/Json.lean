import Confluence.Cell.Basic
import Confluence.Json.Float

/-!
# Cells in JSON

A cell is written as an object with one field, named for its type; NULL is a bare word. The
values are those of JSON, decimals a pair of mantissa and scale, and byte strings arrays of
numbers.
-/

namespace Confluence

/-- The name of a type in stored requests. -/
def SqlType.tag : SqlType → String
  | .any => "any"
  | .boolean => "boolean"
  | .int32 => "int32"
  | .int64 => "int64"
  | .float64 => "float64"
  | .decimal => "decimal"
  | .text => "text"
  | .date => "date"
  | .timestamp => "timestamp"
  | .bytes => "bytea"

def SqlType.ofJson? (v : Json) : Option SqlType :=
  v.choice?.bind fun s =>
    [SqlType.any, .boolean, .int32, .int64, .float64, .decimal, .text, .date, .timestamp,
      .bytes].find? (·.tag = s)

/-- A number of decimal places. -/
def Decimal.Scale.ofJson? (v : Json) : Option Decimal.Scale :=
  (v.toNatBelow? 256).bind fun n => if h : n < 256 then some ⟨n, h⟩ else none

namespace Cell

def toJson : Cell → Json
  | .null => .string "Null"
  | .boolean b => .object [("Boolean", .bool b)]
  | .int32 n => .object [("Int32", .integer n.val)]
  | .int64 n => .object [("Int64", .integer n.val)]
  | .float64 x => .object [("Float64", .ofBinary64 x)]
  | .decimal d =>
    .object [("Decimal", .array [.integer d.mantissa.val, .integer d.scale.val])]
  | .text s => .object [("Text", .string s)]
  | .date n => .object [("Date", .integer n.val)]
  | .timestamp n => .object [("Timestamp", .integer n.val)]
  | .bytes bs => .object [("Bytea", .array (bs.map fun b => .integer b.toNat))]

/-- An integer literal of a signed width. -/
def signed? (w : Nat) : Json → Option (Signed w)
  | .integer n => Signed.ofInt? w n
  | _ => none

/-- A mantissa; of the numbers that are no integer literals only `-0` is one. -/
def mantissa? : Json → Option (Signed 128)
  | .integer n => Signed.ofInt? 128 n
  | .real n =>
    if n.whole = ['0'] ∧ n.fraction = [] ∧ n.exponent = none then Signed.ofInt? 128 0 else none
  | _ => none

def byte? (j : Json) : Option UInt8 := (j.toNatBelow? 256).map UInt8.ofNat

/-- The cell in a field named for its type. -/
def ofField? (name : String) (v : Json) : Option Cell :=
  if name = "Null" then (match v with | .null => some .null | _ => none)
  else if name = "Boolean" then v.toBool?.map .boolean
  else if name = "Int32" then (signed? 32 v).map .int32
  else if name = "Int64" then (signed? 64 v).map .int64
  else if name = "Float64" then v.toBinary64?.map .float64
  else if name = "Decimal" then
    match v with
    | .array [m, s] => (mantissa? m).bind fun m => (Decimal.Scale.ofJson? s).map fun s => .decimal ⟨m, s⟩
    | _ => none
  else if name = "Text" then v.toString?.map .text
  else if name = "Date" then (signed? 32 v).map .date
  else if name = "Timestamp" then (signed? 64 v).map .timestamp
  else if name = "Bytea" then
    v.toList?.bind fun items => (items.mapM byte?).map .bytes
  else none

def ofJson? : Json → Option Cell
  | .string s => if s = "Null" then some .null else none
  | .object [(name, v)] => ofField? name v
  | _ => none

end Cell

end Confluence
