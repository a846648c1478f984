import Confluence.Cell.Key
import Confluence.Cell.Text

/-!
# Group keys

Rows belong to one group if the cells of their group columns are the same: equal as values, or
both NULL.
-/

namespace Confluence

/-- Whether two cells fall into one group. -/
def Cell.sameGroup (a b : Cell) : Bool :=
  match a.isNull, b.isNull with
  | true, true => true
  | false, false => a.sameValue b
  | _, _ => false

/-- The cells of the group columns of a row. -/
abbrev GroupKey := List Cell

namespace GroupKey

/-- Whether two keys name one group. -/
def same : GroupKey → GroupKey → Bool
  | [], [] => true
  | a :: as, b :: bs => a.sameGroup b && same as bs
  | _, _ => false

/-- What of a key enters a hash. -/
def hashForm (k : GroupKey) : List CellKey := k.map Cell.key

/-- What a key writes into a hasher: its length, and then its cells. -/
def writes (k : GroupKey) : List HashWrite := .length k.length :: k.hashForm.flatMap CellKey.writes

/-- The text of a key. -/
def display (k : GroupKey) : List Char :=
  '(' :: ((k.map Cell.display).intersperse [',', ' ']).flatten ++ [')']

end GroupKey

/-- Which one of several equal keys a hash table comes across: with the keys in the table, in the
order in which they were inserted, and the key that is looked up, the number of equal keys that are
passed over. Decimals and binary fractions make equality of keys intransitive, so there can be
several, and the one that is found depends on a seed that is drawn anew for each table. -/
abbrev Probing := List GroupKey → GroupKey → Nat

end Confluence
