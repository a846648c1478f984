import Confluence.Toml.Scalar

/-!
# Reading TOML documents

Values, and the lines of a document: comments, headers and keys with their values.
-/

namespace Confluence.Toml

/-- A number, a date or a time. -/
def readNumber? (s : List Char) : Option (Toml × List Char) :=
  match readDateTime? s with
  | some r => some r
  | none =>
    match readFloat? s with
    | some r => some r
    | none => readInteger? s

/-- A value without parts. -/
def readScalarValue? : List Char → Option (Toml × List Char)
  | '\x22' :: s => (readString? ('\x22' :: s)).map fun (cs, s) => (.string (String.ofList cs), s)
  | '\x27' :: s => (readString? ('\x27' :: s)).map fun (cs, s) => (.string (String.ofList cs), s)
  | 't' :: 'r' :: 'u' :: 'e' :: s => some (.boolean true, s)
  | 'f' :: 'a' :: 'l' :: 's' :: 'e' :: s => some (.boolean false, s)
  | 'i' :: s => readSpecial? ('i' :: s)
  | 'n' :: s => readSpecial? ('n' :: s)
  | s => readNumber? s

/-- A key and the equality sign after it. The last part of the key stands apart. -/
def readKeyMark? (s : List Char) : Option (List String × String × List Char) :=
  match readKey? (s.length + 1) s with
  | some (ks, '=' :: s) =>
    if maxKeyDepth < ks.length then none
    else ks.getLast?.map fun k => (ks.dropLast, k, skipSpace s)
  | _ => none

mutual

/-- A value. The first argument bounds the work, the second one the nesting. -/
def readValue? : Nat → Nat → List Char → Option (Toml × List Char)
  | 0, _, _ => none
  | fuel + 1, nesting, s =>
    match s with
    | '[' :: s =>
      match nesting with
      | 0 => none
      | nesting + 1 =>
        (readItems? fuel nesting s).map fun (items, s) => (.array items, s)
    | '\x7b' :: s =>
      match nesting with
      | 0 => none
      | nesting + 1 =>
        match skipSpace s with
        | '\x7d' :: s => some (.inline [], s)
        | s => (readEntries? fuel nesting [] s).map fun (fields, s) => (.inline fields, s)
    | s => readScalarValue? s

/-- The items of an array up to its closing bracket; a comma may stand after the last one. -/
def readItems? : Nat → Nat → List Char → Option (List Toml × List Char)
  | 0, _, _ => none
  | fuel + 1, nesting, s =>
    match skipLines s.length s with
    | ']' :: s => some ([], s)
    | s =>
      match readValue? fuel nesting s with
      | none => none
      | some (v, s) =>
        match skipLines s.length s with
        | ',' :: s => (readItems? fuel nesting s).map fun (vs, s) => (v :: vs, s)
        | ']' :: s => some ([v], s)
        | _ => none

/-- The entries of an inline table up to its closing brace, added to those read before. -/
def readEntries? : Nat → Nat → Fields → List Char → Option (Fields × List Char)
  | 0, _, _, _ => none
  | fuel + 1, nesting, fields, s =>
    match readKeyMark? s with
    | none => none
    | some (path, k, s) =>
      match readValue? fuel nesting s with
      | none => none
      | some (v, s) =>
        match insert path k v false fields with
        | none => none
        | some fields =>
          match skipSpace s with
          | ',' :: s => readEntries? fuel nesting fields s
          | '\x7d' :: s => some (fields, s)
          | _ => none

end

/-- A document that is read up to some line: its entries, and the path of the last header. -/
structure Progress where
  fields : Fields := []
  header : List String := []

/-- The key between the brackets of a header, and the text after the given closing brackets. -/
def readHeader? (closing : List Char) (s : List Char) : Option (List String × List Char) :=
  match readKey? (s.length + 1) s with
  | some (ks, s) =>
    if maxKeyDepth < ks.length then none
    else if closing.isPrefixOf s then some (ks, s.drop closing.length)
    else none
  | none => none

/-- Open a table by its header. -/
def Progress.open? (p : Progress) (define : String → Fields → Option Fields) (ks : List String) :
    Option Progress :=
  ks.getLast?.bind fun k =>
    (changeAt false (fun _ fs => define k fs) ks.dropLast false p.fields).map fun fields =>
      ⟨fields, ks⟩

/-- Add an entry to the table of the last header. -/
def Progress.insert? (p : Progress) (path : List String) (k : String) (v : Toml) :
    Option Progress :=
  (changeAt false (fun _ fs => insert path k v false fs) p.header false p.fields).map fun fields =>
    { p with fields }

/-- One line with a header or with a key and its value. -/
def readEntry? (p : Progress) : List Char → Option (Progress × List Char)
  | '[' :: '[' :: s => do
    let (ks, s) ← readHeader? [']', ']'] s
    let p ← p.open? openElement ks
    some (p, s)
  | '[' :: s => do
    let (ks, s) ← readHeader? [']'] s
    let p ← p.open? defineTable ks
    some (p, s)
  | s => do
    let (path, k, s) ← readKeyMark? s
    let (v, s) ← readValue? (2 * s.length + 2) maxNesting s
    let p ← p.insert? path k v
    some (p, s)

/-- The lines of a document from some point on. -/
def readLines? : Nat → Progress → List Char → Option Fields
  | 0, _, _ => none
  | fuel + 1, p, s =>
    match skipComment (skipLines s.length s) with
    | [] => some p.fields
    | s =>
      match readEntry? p s with
      | none => none
      | some (p, s) =>
        match readLineEnd? s with
        | some [] => some p.fields
        | some s => readLines? fuel p s
        | none => none

/-- The entries of a document. A byte order mark in front of it does not count. -/
def ofText? (text : String) : Option Fields :=
  let s := text.toList
  let s := match s with
    | '\uFEFF' :: r => r
    | s => s
  readLines? (s.length + 1) {} s

end Confluence.Toml
