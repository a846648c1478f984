import Confluence.Json.Reader
import Confluence.Json.Writer
import Confluence.Number.Power

/-!
# Codecs for JSON texts

Texts are written and read by a codec that is not part of this library. Codecs differ in how deep
arrays and objects may nest: most readers count the levels and give up when there are too many.
-/

namespace Confluence.Json

mutual

/-- How deep arrays and objects nest. -/
def depth : Json → Nat
  | .array items => depthOfItems items + 1
  | .object fields => depthOfFields fields + 1
  | _ => 0

def depthOfItems : List Json → Nat
  | [] => 0
  | v :: vs => max v.depth (depthOfItems vs)

def depthOfFields : List (String × Json) → Nat
  | [] => 0
  | (_, v) :: r => max v.depth (depthOfFields r)

end

mutual

/-- Whether all numbers are integers of 64 bits, with or without sign, and no object has two fields
of one name. -/
def isPlain : Json → Bool
  | .integer n => decide (-(twoTo 63 : Int) ≤ n ∧ n < twoTo 64)
  | .real _ => false
  | .array items => allPlain items
  | .object fields => decide (fields.map (·.1)).Nodup && allFieldsPlain fields
  | _ => true

def allPlain : List Json → Bool
  | [] => true
  | v :: vs => v.isPlain && allPlain vs

def allFieldsPlain : List (String × Json) → Bool
  | [] => true
  | (_, v) :: r => v.isPlain && allFieldsPlain r

end

/-- How texts of values are written and read, and how deep a value may nest to be read, if there is
a limit to that. -/
structure Codec where
  write : Json → String
  read : String → Option Json
  limit : Option Nat

namespace Codec

variable (C : Codec)

/-- Whether a value nests no deeper than it may. -/
def Takes (v : Json) : Prop := ∀ l ∈ C.limit, v.depth ≤ l

/-- What a codec is relied on for: a plain value is read back from its text, if it does not nest too
deep. -/
structure Faithful : Prop where
  read_write {v : Json} : v.isPlain = true → C.Takes v → C.read (C.write v) = some v

end Codec

/-- The codec of compact texts, with a reader that counts levels if it is given a limit. -/
def compactCodec (limit : Option Nat) : Codec where
  write := text
  read t := (ofText? t).filter fun v => limit.all fun l => v.depth ≤ l
  limit := limit

end Confluence.Json
