import Confluence.Cell.Order

/-!
# Hash keys of cells

Cells that are equal as values can differ in type. The key of a cell is the same for all of them,
so that a table hashed by key finds every equal cell: an integer within 64 bits stands for itself,
and every other number is represented by its rounded value.
-/

namespace Confluence

/-- What of a cell enters a hash. -/
inductive CellKey where
  | null
  | boolean (b : Bool)
  | integer (n : Signed 64)
  | float (x : Binary64)
  | text (s : String)
  | date (day : Signed 32)
  | timestamp (micros : Signed 64)
  | bytes (bs : List UInt8)
deriving DecidableEq

/-- The key of a number: both zeros of the floating-point format are the positive one. -/
def CellKey.ofBinary64 (x : Binary64) : CellKey :=
  .float (if x.isZero then .zero false else x)

/-- The key of a numeric cell. -/
def Cell.numericKey (c : Cell) : CellKey :=
  match c.integer? with
  | some n =>
    match Signed.ofInt? 64 n.val with
    | some n => .integer n
    | none => .float (.ofInt n.val)
  | none => .ofBinary64 (c.toBinary64?.getD .nan)

def Cell.key : Cell → CellKey
  | .null => .null
  | .boolean b => .boolean b
  | .text s => .text s
  | .date n => .date n
  | .timestamp n => .timestamp n
  | .bytes bs => .bytes bs
  | c@(.int32 _) | c@(.int64 _) | c@(.float64 _) | c@(.decimal _) => c.numericKey

/-! ### Hashers -/

/-- One value that is written into a hasher. -/
inductive HashWrite where
  | byte (n : Nat)
  | int32 (n : Signed 32)
  | int64 (n : Signed 64)
  | word (bits : Nat)
  | length (n : Nat)
  | text (s : String)
  | bytes (bs : List UInt8)
deriving DecidableEq

/-- What a key writes into a hasher: a byte for its kind, and its value. A float is written as the
64 bits of its interchange format. -/
def CellKey.writes : CellKey → List HashWrite
  | .null => [.byte 0]
  | .boolean b => [.byte 1, .byte b.toNat]
  | .integer n => [.byte 2, .int64 n]
  | .float x => [.byte 3, .word x.toBits]
  | .text s => [.byte 4, .text s]
  | .date n => [.byte 5, .int32 n]
  | .timestamp n => [.byte 6, .int64 n]
  | .bytes bs => [.byte 7, .length bs.length, .bytes bs]

end Confluence
