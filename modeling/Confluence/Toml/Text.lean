import Confluence.Number.Digits

/-!
# Text of TOML documents

Space, comments, strings and keys. Each reader takes a construct off the front of a text and gives
the text after it.
-/

namespace Confluence.Toml

def isSpace (c : Char) : Bool := c = ' ' || c = '\t'

def skipSpace (s : List Char) : List Char := s.dropWhile isSpace

/-- A line feed, with or without a carriage return in front of it. -/
def readNewline? : List Char → Option (List Char)
  | '\n' :: s => some s
  | '\r' :: '\n' :: s => some s
  | _ => none

/-- Whether a character may stand in a comment or a string: no control character but the tab. -/
def isPrintable (c : Char) : Bool := c = '\t' || (0x20 ≤ c.toNat && c.toNat ≠ 0x7F)

/-- The text after a comment, if there is one. -/
def skipComment : List Char → List Char
  | '\x23' :: s => s.dropWhile isPrintable
  | s => s

/-- Space and a comment up to the end of the line or of the document. -/
def readLineEnd? (s : List Char) : Option (List Char) :=
  match skipComment (skipSpace s) with
  | [] => some []
  | s => readNewline? s

/-- Any number of blank lines and comments; the first argument bounds their number. -/
def skipLines : Nat → List Char → List Char
  | 0, s => s
  | fuel + 1, s =>
    let s := skipSpace s
    match readNewline? (skipComment s) with
    | some s => skipLines fuel s
    | none => s

/-! ### Strings -/

def hexValue? (c : Char) : Option Nat :=
  if '0' ≤ c ∧ c ≤ '9' then some (c.toNat - 48)
  else if 'a' ≤ c ∧ c ≤ 'f' then some (c.toNat - 87)
  else if 'A' ≤ c ∧ c ≤ 'F' then some (c.toNat - 55)
  else none

/-- A number of hexadecimal digits. -/
def readHex? : Nat → Nat → List Char → Option (Nat × List Char)
  | 0, n, s => some (n, s)
  | _ + 1, _, [] => none
  | k + 1, n, c :: s =>
    match hexValue? c with
    | some d => readHex? k (16 * n + d) s
    | none => none

/-- A character by its number. -/
def readScalar? (digits : Nat) (s : List Char) : Option (Char × List Char) :=
  match readHex? digits 0 s with
  | some (n, s) => if n.isValidChar then some (Char.ofNat n, s) else none
  | none => none

/-- The character of an escape, after its backslash. -/
def readEscape? : List Char → Option (Char × List Char)
  | 'b' :: s => some ('\x08', s)
  | 't' :: s => some ('\t', s)
  | 'n' :: s => some ('\n', s)
  | 'f' :: s => some ('\x0c', s)
  | 'r' :: s => some ('\r', s)
  | '\x22' :: s => some ('\x22', s)
  | '\\' :: s => some ('\\', s)
  | 'u' :: s => readScalar? 4 s
  | 'U' :: s => readScalar? 8 s
  | _ => none

/-- The rest of a string on one line. Escapes have a meaning only between double quotes. -/
def readLine? (quote : Char) : Nat → List Char → List Char → Option (List Char × List Char)
  | 0, _, _ => none
  | _ + 1, _, [] => none
  | fuel + 1, acc, c :: s =>
    if c = quote then some (acc.reverse, s)
    else if c = '\\' ∧ quote = '\x22' then
      match readEscape? s with
      | some (d, s) => readLine? quote fuel (d :: acc) s
      | none => none
    else if isPrintable c then readLine? quote fuel (c :: acc) s
    else none

/-- Whether a line ends after any space. -/
def endsLine (s : List Char) : Bool := (readNewline? (skipSpace s)).isSome

/-- Any number of spaces and line ends. -/
def skipBlanks : Nat → List Char → List Char
  | 0, s => s
  | fuel + 1, s =>
    let s := skipSpace s
    match readNewline? s with
    | some s => skipBlanks fuel s
    | none => s

/-- The rest of a string over several lines. Three quotes end it, and up to two more in front of
them belong to it. A backslash at the end of a line takes away all blanks up to the next
character. -/
def readBlock? (quote : Char) : Nat → List Char → List Char → Option (List Char × List Char)
  | 0, _, _ => none
  | _ + 1, _, [] => none
  | fuel + 1, acc, c :: s =>
    if c = quote then
      let run := (s.takeWhile (· = quote)).length + 1
      if 3 ≤ run then
        let extra := min (run - 3) 2
        some ((List.replicate extra quote ++ acc).reverse, s.drop (extra + 2))
      else readBlock? quote fuel (c :: acc) s
    else if c = '\\' ∧ quote = '\x22' then
      if endsLine s then readBlock? quote fuel acc (skipBlanks s.length s)
      else
        match readEscape? s with
        | some (d, s) => readBlock? quote fuel (d :: acc) s
        | none => none
    else
      match readNewline? (c :: s) with
      | some s => readBlock? quote fuel ('\n' :: acc) s
      | none => if isPrintable c then readBlock? quote fuel (c :: acc) s else none

/-- A string, if the text starts with a quote. A line end right after three quotes does not
count. -/
def readString? : List Char → Option (List Char × List Char)
  | '\x22' :: '\x22' :: '\x22' :: s => readBlock? '\x22' (s.length + 1) [] ((readNewline? s).getD s)
  | '\x22' :: s => readLine? '\x22' (s.length + 1) [] s
  | '\x27' :: '\x27' :: '\x27' :: s => readBlock? '\x27' (s.length + 1) [] ((readNewline? s).getD s)
  | '\x27' :: s => readLine? '\x27' (s.length + 1) [] s
  | _ => none

/-! ### Keys -/

def isBare (c : Char) : Bool :=
  Digits.isDigit c || ('a' ≤ c && c ≤ 'z') || ('A' ≤ c && c ≤ 'Z') || c = '-' || c = '_'

/-- One part of a key: bare, or a string on one line. -/
def readPart? : List Char → Option (String × List Char)
  | '\x22' :: s => (readLine? '\x22' (s.length + 1) [] s).map fun (cs, s) => (String.ofList cs, s)
  | '\x27' :: s => (readLine? '\x27' (s.length + 1) [] s).map fun (cs, s) => (String.ofList cs, s)
  | s =>
    let cs := s.takeWhile isBare
    if cs = [] then none else some (String.ofList cs, s.drop cs.length)

/-- A key: parts with dots between them, and space around each of them. -/
def readKey? : Nat → List Char → Option (List String × List Char)
  | 0, _ => none
  | fuel + 1, s =>
    match readPart? (skipSpace s) with
    | none => none
    | some (k, s) =>
      match skipSpace s with
      | '.' :: s => (readKey? fuel s).map fun (ks, s) => (k :: ks, s)
      | s => some ([k], s)

end Confluence.Toml
