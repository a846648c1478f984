import Confluence.Json.Basic

/-!
# Reading JSON

A recursive reader over characters. Each reader takes a construct off the front of a text and
gives the text after it; the readers for nested values are bounded by the length of the text.
-/

namespace Confluence.Json

def isSpace (c : Char) : Bool := c = ' ' || c = '\n' || c = '\t' || c = '\r'

def skipSpace (s : List Char) : List Char := s.dropWhile isSpace

/-! ### Numbers -/

/-- One or more digits. -/
def readDigits? (s : List Char) : Option (List Char × List Char) :=
  let ds := s.takeWhile Digits.isDigit
  if ds = [] then none else some (ds, s.drop ds.length)

/-- The fraction of a number, if a point follows. -/
def readFraction? : List Char → Option (List Char × List Char)
  | '.' :: s => readDigits? s
  | s => some ([], s)

/-- The exponent of a number, if its mark follows. -/
def readExponent? : List Char → Option (Option (Bool × List Char) × List Char)
  | [] => some (none, [])
  | c :: s =>
    if c = 'e' ∨ c = 'E' then
      match s with
      | '-' :: r => (readDigits? r).map fun (ds, r) => (some (true, ds), r)
      | '+' :: r => (readDigits? r).map fun (ds, r) => (some (false, ds), r)
      | r => (readDigits? r).map fun (ds, r) => (some (false, ds), r)
    else some (none, c :: s)

/-- A number without its sign. A digit zero in front stands alone. -/
def readMagnitude? (negative : Bool) (s : List Char) : Option (Json × List Char) := do
  let (whole, s) ← readDigits? s
  if whole.length > 1 ∧ whole.head? = some '0' then none
  else
    let point := s.head? = some '.'
    let (fraction, s) ← readFraction? s
    let (exponent, s) ← readExponent? s
    let n := Digits.toNat whole
    if ¬ point ∧ exponent = none ∧ ¬ (negative ∧ n = 0) then
      some (.integer (if negative then -(n : Int) else n), s)
    else some (.real ⟨negative, whole, fraction, exponent⟩, s)

/-! ### Strings -/

/-- The value of a hexadecimal digit. -/
def hexValue? (c : Char) : Option Nat :=
  if '0' ≤ c ∧ c ≤ '9' then some (c.toNat - 48)
  else if 'a' ≤ c ∧ c ≤ 'f' then some (c.toNat - 87)
  else if 'A' ≤ c ∧ c ≤ 'F' then some (c.toNat - 55)
  else none

/-- Four hexadecimal digits. -/
def readHex4? : List Char → Option (Nat × List Char)
  | a :: b :: c :: d :: s => do
    let a ← hexValue? a
    let b ← hexValue? b
    let c ← hexValue? c
    let d ← hexValue? d
    some (((a * 16 + b) * 16 + c) * 16 + d, s)
  | _ => none

/-- The character of an escape by number, after its mark. The halves of a surrogate pair have to
stand together. -/
def readUnicode? (s : List Char) : Option (Char × List Char) := do
  let (n, s) ← readHex4? s
  if 0xD800 ≤ n ∧ n < 0xDC00 then
    match s with
    | '\\' :: 'u' :: s =>
      let (low, s) ← readHex4? s
      if 0xDC00 ≤ low ∧ low < 0xE000 then
        some (Char.ofNat (0x10000 + (n - 0xD800) * 0x400 + (low - 0xDC00)), s)
      else none
    | _ => none
  else if 0xDC00 ≤ n ∧ n < 0xE000 then none
  else some (Char.ofNat n, s)

/-- The character of an escape, after its backslash. -/
def readEscape? : List Char → Option (Char × List Char)
  | '\x22' :: s => some ('\x22', s)
  | '\\' :: s => some ('\\', s)
  | '/' :: s => some ('/', s)
  | 'b' :: s => some ('\x08', s)
  | 'f' :: s => some ('\x0c', s)
  | 'n' :: s => some ('\n', s)
  | 'r' :: s => some ('\r', s)
  | 't' :: s => some ('\t', s)
  | 'u' :: s => readUnicode? s
  | _ => none

/-- The rest of a string after its opening quote, in reverse in front of `acc`. The first argument
bounds the number of characters. -/
def readChars? : Nat → List Char → List Char → Option (List Char × List Char)
  | 0, _, _ => none
  | _ + 1, _, [] => none
  | fuel + 1, acc, c :: s =>
    if c = '\x22' then some (acc, s)
    else if c = '\\' then
      (readEscape? s).bind fun (d, s) => readChars? fuel (d :: acc) s
    else if c.toNat < 0x20 then none
    else readChars? fuel (c :: acc) s

/-- The rest of a string after its opening quote. -/
def readString? (fuel : Nat) (s : List Char) : Option (String × List Char) :=
  (readChars? fuel [] s).map fun (cs, s) => (String.ofList cs.reverse, s)

/-! ### Values -/

/-- A given word. -/
def readWord? : List Char → List Char → Option (List Char)
  | [], s => some s
  | _ :: _, [] => none
  | w :: ws, c :: s => if w = c then readWord? ws s else none

mutual

/-- A value, after any space. -/
def readValue? : Nat → List Char → Option (Json × List Char)
  | 0, _ => none
  | fuel + 1, s =>
    match skipSpace s with
    | '\x7b' :: s =>
      match skipSpace s with
      | '\x7d' :: s => some (.object [], s)
      | s => (readFields? fuel s).map fun (fields, s) => (.object fields, s)
    | '[' :: s =>
      match skipSpace s with
      | ']' :: s => some (.array [], s)
      | s => (readItems? fuel s).map fun (items, s) => (.array items, s)
    | '\x22' :: s => (readString? (fuel + 1) s).map fun (t, s) => (.string t, s)
    | '-' :: s => readMagnitude? true s
    | 't' :: s => (readWord? ['r', 'u', 'e'] s).map fun s => (.bool true, s)
    | 'f' :: s => (readWord? ['a', 'l', 's', 'e'] s).map fun s => (.bool false, s)
    | 'n' :: s => (readWord? ['u', 'l', 'l'] s).map fun s => (.null, s)
    | s => readMagnitude? false s

/-- The items of an array up to its closing bracket; there is at least one. -/
def readItems? : Nat → List Char → Option (List Json × List Char)
  | 0, _ => none
  | fuel + 1, s =>
    match readValue? fuel s with
    | none => none
    | some (v, s) =>
      match skipSpace s with
      | ',' :: s => (readItems? fuel s).map fun (vs, s) => (v :: vs, s)
      | ']' :: s => some ([v], s)
      | _ => none

/-- The fields of an object up to its closing brace; there is at least one. -/
def readFields? : Nat → List Char → Option (List (String × Json) × List Char)
  | 0, _ => none
  | fuel + 1, s =>
    match skipSpace s with
    | '\x22' :: s =>
      match readString? (fuel + 1) s with
      | none => none
      | some (k, s) =>
        match skipSpace s with
        | ':' :: s =>
          match readValue? fuel s with
          | none => none
          | some (v, s) =>
            match skipSpace s with
            | ',' :: s => (readFields? fuel s).map fun (fs, s) => ((k, v) :: fs, s)
            | '\x7d' :: s => some ([(k, v)], s)
            | _ => none
        | _ => none
    | _ => none

end

/-- The value that a whole text writes. An item of an array or a field takes at least two
characters and one step, and a nested value one character and two steps, so that twice the length
of the text is always enough. -/
def ofText? (text : String) : Option Json :=
  let s := text.toList
  match readValue? (2 * s.length + 2) s with
  | some (v, s) => if skipSpace s = [] then some v else none
  | none => none

end Confluence.Json
