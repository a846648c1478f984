import Confluence.Json.Basic
import Confluence.Number.Power

/-!
# Fields of JSON objects

Reading a structure out of the fields of an object: a field can be required, can have a default,
or can be null. Fields that nobody asks for are passed over.
-/

namespace Confluence.Json

/-- The fields of an object. -/
def fields? : Json → Option (List (String × Json))
  | .object fields => some fields
  | _ => none

/-- A field that has to be there. -/
def required {α : Type} (fields : List (String × Json)) (name : String) (read : Json → Option α) :
    Option α :=
  (lookup name fields).bind read

/-- A field with a value for when it is missing. -/
def withDefault {α : Type} (fields : List (String × Json)) (name : String) (default : α)
    (read : Json → Option α) : Option α :=
  match lookup name fields with
  | none => some default
  | some v => read v

/-- A field that may be missing or null. -/
def nullable {α : Type} (fields : List (String × Json)) (name : String) (read : Json → Option α) :
    Option (Option α) :=
  match lookup name fields with
  | none | some .null => some none
  | some v => (read v).map some

/-- Every item of an array. -/
def listOf {α : Type} (read : Json → Option α) (v : Json) : Option (List α) :=
  v.toList?.bind (·.mapM read)

/-- A number of 64 bits without sign. -/
def toUInt64? (v : Json) : Option UInt64 := (v.toNatBelow? (twoTo 64)).map UInt64.ofNat

/-- A value that may be null. -/
def optional {α : Type} (write : α → Json) : Option α → Json
  | none => .null
  | some a => write a

end Confluence.Json
