import Confluence.Cell.Text
import Confluence.Failure
import Confluence.Text.Lowercase

/-!
# Coercion

Reading a cell as another type. NULL can be read as every type. What would lose information, and
what crosses between unrelated types, is refused. Every cell can be read as text.
-/

namespace Confluence.Cell

/-- The truth value that a word stands for, in any case. -/
def booleanOfText? (s : String) : Option Bool :=
  let word := String.ofList (Text.lower s.toList)
  if word = "true" ∨ word = "t" ∨ word = "1" ∨ word = "yes" then some true
  else if word = "false" ∨ word = "f" ∨ word = "0" ∨ word = "no" then some false
  else none

def toBoolean? : Cell → Option Bool
  | .boolean b => some b
  | .int32 n => some (n.val ≠ 0)
  | .int64 n => some (n.val ≠ 0)
  | .text s => booleanOfText? s
  | _ => none

def readBinary64? : Cell → Option Binary64
  | .text s => Binary64.ofText? (Text.trim s.toList)
  | c => c.toBinary64?

/-- A finite float is read through its shortest text. -/
def readDecimal? : Cell → Option Decimal
  | .float64 x => if x.isFinite then Decimal.ofText? x.text else none
  | .text s => Decimal.ofText? s.toList
  | c => c.toDecimal?

def readDate? : Cell → Option (Signed 32)
  | .date n => some n
  | .text s => (Calendar.dayOfText? (Text.trim s.toList)).bind (Signed.ofInt? 32)
  | _ => none

/-- A date is read as its midnight. Midnights that are too far from the epoch wrap around. -/
def readTimestamp? : Cell → Option (Signed 64)
  | .timestamp n => some n
  | .date n => some (.wrap 64 (n.val * (Calendar.secondsPerDay * Calendar.microsPerSecond)))
  | .text s => (Calendar.instantOfText? (Text.trim s.toList)).bind (Signed.ofInt? 64)
  | _ => none

def readBytes? : Cell → Option (List UInt8)
  | .bytes bs => some bs
  | .text s => some s.toUTF8.toList
  | _ => none

/-- A cell that is not NULL, read as another type. -/
def convert? (c : Cell) : SqlType → Option Cell
  | .any => some c
  | .boolean => c.toBoolean?.map .boolean
  | .int32 => c.integer?.bind fun n => (Signed.ofInt? 32 n.val).map .int32
  | .int64 => c.integer?.bind fun n => (Signed.ofInt? 64 n.val).map .int64
  | .float64 => c.readBinary64?.map .float64
  | .decimal => c.readDecimal?.map .decimal
  | .text => some (.text (String.ofList c.display))
  | .date => c.readDate?.map .date
  | .timestamp => c.readTimestamp?.map .timestamp
  | .bytes => c.readBytes?.map .bytes

/-- A cell read as the type `t`. -/
def coerce (c : Cell) (t : SqlType) : Except Failure Cell :=
  if c.isNull then .ok c
  else
    match c.convert? t with
    | some r => .ok r
    | none => .error (.typeMismatch t.name c.typeName)

@[simp] theorem coerce_null (t : SqlType) : coerce .null t = .ok .null := rfl

@[simp] theorem coerce_any (c : Cell) : c.coerce .any = .ok c := by
  rw [coerce, convert?]
  split <;> rfl

end Confluence.Cell
