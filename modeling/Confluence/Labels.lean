import Confluence.Shape.Basic
import Confluence.Source.Basic
import Confluence.Text.Lowercase

/-!
# Column labels

The labels of a result, looked up without regard to case and quoting. The labels are those of the
first shard; every other shard has to agree with them.
-/

namespace Confluence

/-- Whether a character quotes an identifier. -/
def isQuote (c : Char) : Bool := c = '\x60' || c = '\x22' || c = '[' || c = ']'

/-- A label without the characters that quote it. -/
def unquote (label : String) : String := String.ofList (label.toList.filter fun c => !isQuote c)

/-- What two labels have in common that differ in case and quoting only. -/
def foldLabel (label : String) : List Char := Text.lower (unquote label).toList

/-- The unquoted labels of the columns of a result. -/
structure LabelIndex where
  labels : List String

namespace LabelIndex

def ofLabels (labels : List String) : LabelIndex := ⟨labels.map unquote⟩

def size (x : LabelIndex) : Nat := x.labels.length

/-- The first position of a label, counted from 1. -/
def position? (x : LabelIndex) (label : String) : Option Nat :=
  (x.labels.findIdx? fun l => foldLabel l = foldLabel label).map (· + 1)

/-- The label at a position counted from 1. -/
def label? (x : LabelIndex) : Nat → Option String
  | 0 => none
  | k + 1 => x.labels[k]?

/-- The position that a column reference stands for. -/
def resolve (x : LabelIndex) : ColumnRef → Except Failure Nat
  | .index n =>
    if 1 ≤ n.toNat ∧ n.toNat ≤ x.size then .ok n.toNat
    else .error (.configuration
      ("column index " ++ toString n.toNat ++ " out of range 1..=" ++ toString x.size))
  | .label s =>
    match x.position? s with
    | some i => .ok i
    | none => .error (.configuration ("unknown column label '" ++ s ++ "'"))

/-! ### Labels of sources -/

variable {σ : Type} [RowSource σ]

/-- The labels of the columns from `first` on, as many as asked for. -/
def readLabels (s : σ) (first : Nat) : Nat → Except Failure (List String)
  | 0 => .ok []
  | n + 1 =>
    match RowSource.columnLabel s first with
    | .error e => .error e
    | .ok l =>
      match readLabels s (first + 1) n with
      | .error e => .error e
      | .ok ls => .ok (l :: ls)

/-- The labels of a source. -/
def ofSource (s : σ) : Except Failure LabelIndex :=
  match readLabels s 1 (RowSource.columnCount s) with
  | .ok ls => .ok (ofLabels ls)
  | .error e => .error e

/-- Check the columns of a shard from `first` on against the labels they should have. -/
def checkLabels (shard : Nat) (s : σ) (first : Nat) : List String → Except Failure Unit
  | [] => .ok ()
  | expected :: rest =>
    match RowSource.columnLabel s first with
    | .error e => .error e
    | .ok l =>
      if foldLabel l = foldLabel expected then checkLabels shard s (first + 1) rest
      else .error (.configuration
        ("shard " ++ toString shard ++ " column " ++ toString first ++ " is '" ++ unquote l ++
          "', expected '" ++ expected ++ "'"))

/-- Check that a shard has the same columns. -/
def checkSource (x : LabelIndex) (shard : Nat) (s : σ) : Except Failure Unit :=
  if RowSource.columnCount s ≠ x.size then
    .error (.configuration
      ("shard " ++ toString shard ++ " returned " ++ toString (RowSource.columnCount s) ++
        " columns, expected " ++ toString x.size))
  else checkLabels shard s 1 x.labels

end LabelIndex

end Confluence
