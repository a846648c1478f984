import Confluence.Text.LetterTables

/-!
# Lower case

The full lower-case mapping of Unicode. It is the simple mapping of each character but for two:
capital I with a dot becomes two characters, and capital sigma at the end of a word becomes the
final form.
-/

namespace Confluence.Text

/-- Whether a character lies in one of the ranges of a table. -/
def inTable (table : List (Nat × Nat)) (c : Char) : Bool :=
  table.any fun (first, last) => first ≤ c.toNat && c.toNat ≤ last

def isCased (c : Char) : Bool := inTable casedTable c

def isCaseIgnorable (c : Char) : Bool := inTable caseIgnorableTable c

/-- The simple lower case of a character; ASCII is looked up by its one range. -/
def lowerChar (c : Char) : Char :=
  let n := c.toNat
  if n < 0x80 then (if 'A' ≤ c ∧ c ≤ 'Z' then Char.ofNat (n + 32) else c)
  else
    match lowerTable.find? fun (first, last, step, _) =>
        first ≤ n && n ≤ last && (n - first) % step = 0 with
    | some (_, _, _, offset) => Char.ofNat ((n : Int) + offset).toNat
    | none => c

/-- Whether a cased character follows, after any characters that do not count. -/
def leadsToCased (s : List Char) : Bool :=
  match s.dropWhile isCaseIgnorable with
  | c :: _ => isCased c
  | [] => false

/-- Lower case of a text, given the text in front of it in reverse. -/
def lowerAfter (before : List Char) : List Char → List Char
  | [] => []
  | c :: r =>
    let here :=
      if c = 'İ' then ['i', '\u0307']
      else if c = 'Σ' then
        (if leadsToCased before && !leadsToCased r then ['ς'] else ['σ'])
      else [lowerChar c]
    here ++ lowerAfter (c :: before) r

/-- The lower case of a text. -/
def lower (s : List Char) : List Char := lowerAfter [] s

end Confluence.Text
