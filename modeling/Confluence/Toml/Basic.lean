/-!
# TOML documents

The tables of a document and how they may be built up. A table is defined once: by a header, by
dotted keys, or inline. Tables that only lead to another one are implicit and can still be defined.
-/

namespace Confluence

/-- How a table came about. -/
inductive Toml.Origin where
  /-- By the path of a longer header. -/
  | implicit
  /-- By a dotted key. -/
  | dotted
  /-- By a header of its own. -/
  | header
deriving DecidableEq

/-- A value of a document, with as much of it as a configuration needs. -/
inductive Toml where
  | string (s : String)
  | integer (n : Int)
  | boolean (b : Bool)
  | float
  | dateTime
  | array (items : List Toml)
  | inline (fields : List (String × Toml))
  | table (origin : Toml.Origin) (fields : List (String × Toml))
  /-- An array of tables, each opened by a header. -/
  | tables (elements : List (List (String × Toml)))

namespace Toml

/-- The entries of a table. -/
abbrev Fields := List (String × Toml)

/-- The entry of a key. -/
def get? (k : String) (fs : Fields) : Option Toml := (fs.find? (·.1 = k)).map (·.2)

/-- The entries with another value for a key that is there. -/
def replace (k : String) (v : Toml) (fs : Fields) : Fields :=
  fs.map fun (l, w) => if l = k then (l, v) else (l, w)

/-- The longest path of a key. -/
def maxKeyDepth : Nat := 79

/-- The greatest number of arrays and inline tables in each other. -/
def maxNesting : Nat := 79

/-- Change the entries of the table at the end of a path; tables that are missing on the way are
made. The change is told whether that table was made by a dotted key. A dotted key cannot lead
through a table with a header. -/
def changeAt (dotted : Bool) (change : Bool → Fields → Option Fields) :
    List String → Bool → Fields → Option Fields
  | [], isDotted, fs => change isDotted fs
  | k :: path, _, fs =>
    match get? k fs with
    | none =>
      (changeAt dotted change path dotted []).map fun sub =>
        fs ++ [(k, .table (if dotted then .dotted else .implicit) sub)]
    | some (.table origin sub) =>
      if dotted && origin = .header then none
      else (changeAt dotted change path (origin = .dotted) sub).map fun sub =>
        replace k (.table origin sub) fs
    | some (.tables elements) =>
      match elements.getLast? with
      | none => none
      | some sub => (changeAt dotted change path false sub).map fun sub =>
          replace k (.tables (elements.dropLast ++ [sub])) fs
    | some _ => none

/-- Add an entry to a table. A key with dots needs a table made by dots, and one without dots any
other table. -/
def insert (path : List String) (k : String) (v : Toml) (isDotted : Bool) (fs : Fields) :
    Option Fields :=
  changeAt true (fun isDotted fs =>
    if isDotted = path.isEmpty then none
    else
      match get? k fs with
      | none => some (fs ++ [(k, v)])
      | some _ => none) path isDotted fs

/-- Define the table with a key in a table. -/
def defineTable (k : String) (fs : Fields) : Option Fields :=
  match get? k fs with
  | none => some (fs ++ [(k, .table .header [])])
  | some (.table .implicit sub) => some (replace k (.table .header sub) fs)
  | some _ => none

/-- Open one more table in the array of tables with a key in a table. -/
def openElement (k : String) (fs : Fields) : Option Fields :=
  match get? k fs with
  | none => some (fs ++ [(k, .tables [[]])])
  | some (.tables elements) => some (replace k (.tables (elements ++ [[]])) fs)
  | some _ => none

end Toml

end Confluence
