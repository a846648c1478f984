import Confluence.Number.Binary64.Basic
import Confluence.Number.Digits

/-!
# JSON values

A literal that is an integer is kept by its value, without a bound; any other number is kept as
it is written, so that each reader can decide how to round it.
-/

namespace Confluence

/-- A number literal by its parts: the digits before the point, those after it, and the exponent
with its sign. -/
structure Json.Numeral where
  negative : Bool
  whole : List Char
  fraction : List Char
  exponent : Option (Bool × List Char)
deriving DecidableEq

inductive Json where
  | null
  | bool (b : Bool)
  | integer (n : Int)
  | real (n : Json.Numeral)
  | string (s : String)
  | array (items : List Json)
  | object (fields : List (String × Json))

namespace Json

instance : Inhabited Json := ⟨.null⟩

/-- The value of a field; of two fields with one name the later one counts. -/
def lookup (name : String) : List (String × Json) → Option Json
  | [] => none
  | (k, v) :: r =>
    match lookup name r with
    | some w => some w
    | none => if k = name then some v else none

/-- The value of a field of an object. -/
def field? (name : String) : Json → Option Json
  | .object fields => lookup name fields
  | _ => none

def toBool? : Json → Option Bool
  | .bool b => some b
  | _ => none

def toString? : Json → Option String
  | .string s => some s
  | _ => none

def toList? : Json → Option (List Json)
  | .array items => some items
  | _ => none

/-- An integer literal below `bound`. -/
def toNatBelow? (bound : Nat) : Json → Option Nat
  | .integer n => if 0 ≤ n ∧ n < bound then some n.toNat else none
  | _ => none

/-- The name of a choice without a value, which is written as a string; an object that maps the
name to null is read as the same choice. -/
def choice? : Json → Option String
  | .string s => some s
  | .object [(s, .null)] => some s
  | _ => none

end Json

end Confluence
