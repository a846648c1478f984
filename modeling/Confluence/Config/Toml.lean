import Confluence.Config.Basic
import Confluence.Failure
import Confluence.Toml.Reader

/-!
# Configuration files

A configuration is a TOML document; entries that are missing have their default values. Without a
file, all of them have.
-/

namespace Confluence.Config

/-- The entry of a key, or a default. -/
def entry {α : Type} (fields : Toml.Fields) (name : String) (default : α)
    (read : Toml → Option α) : Option α :=
  match Toml.get? name fields with
  | none => some default
  | some v => read v

def natBelow? (bound : Nat) : Toml → Option Nat
  | .integer n => if 0 ≤ n ∧ n < bound then some n.toNat else none
  | _ => none

def boolean? : Toml → Option Bool
  | .boolean b => some b
  | _ => none

/-- Whether a value is an empty array or table. -/
def isEmpty : Toml → Bool
  | .array [] | .inline [] | .table _ [] | .tables [] => true
  | _ => false

/-- A dialect by its tag, which is a string or the only key of a table that leads to nothing. -/
def dialect? : Toml → Option Dialect
  | .string s => Dialect.ofTag? s
  | .inline [(s, v)] => if isEmpty v then Dialect.ofTag? s else none
  | .table _ [(s, v)] => if isEmpty v then Dialect.ofTag? s else none
  | _ => none

def ofFields? (fields : Toml.Fields) : Option Config := do
  let d : Config := {}
  let maxRowsBuffered ← entry fields "max_rows_buffered" d.maxRowsBuffered fun v =>
    (natBelow? (twoTo 64) v).map UInt64.ofNat
  let streamGroupBy ← entry fields "stream_group_by" d.streamGroupBy boolean?
  let averageScale ← entry fields "avg_scale" d.averageScale fun v =>
    (natBelow? 256 v).bind fun n => if h : n < 256 then some ⟨n, h⟩ else none
  let defaultDialect ← entry fields "default_dialect" d.defaultDialect dialect?
  some { maxRowsBuffered, streamGroupBy, averageScale, defaultDialect }

/-- The configuration that a text writes. -/
def ofText (text : String) : Except Failure Config :=
  match (Toml.ofText? text).bind ofFields? with
  | some c => .ok c
  | none => .error (.configuration "invalid merge config")

/-- What is found where a configuration file should be. -/
inductive File where
  | missing
  | directory
  | contents (bytes : ByteArray)

/-- The configuration in a file. -/
def ofFile : File → Except Failure Config
  | .missing => .ok {}
  | .directory => .error (.io "is a directory")
  | .contents bytes =>
    match String.fromUTF8? bytes with
    | some text => ofText text
    | none => .error (.io "stream did not contain valid UTF-8")

end Confluence.Config
