import Confluence.Failure
import Confluence.Sort.Order

/-!
# Families of sort columns

The values of a sort column should be comparable. A guard remembers for each column the family of
the first value it saw and refuses a key with a value of another family. NULL is always accepted.
-/

namespace Confluence

/-- The family seen in each sort column, if any. -/
abbrev TypeGuard := List (Option Family)

namespace TypeGuard

/-- The guard that has seen nothing yet. -/
def new (o : RowOrder) : TypeGuard := o.map fun _ => none

/-- Check a sort key and remember its families. The columns are taken from the left, and those in
front of a refused value are remembered too. -/
def accept : TypeGuard → Row → Except Failure Unit × TypeGuard
  | slot :: slots, c :: key =>
    match c.family?, slot with
    | none, _ =>
      let (r, slots) := accept slots key
      (r, slot :: slots)
    | some f, none =>
      let (r, slots) := accept slots key
      (r, some f :: slots)
    | some f, some seen =>
      if seen = f then
        let (r, slots) := accept slots key
        (r, slot :: slots)
      else (.error (.typeMismatch seen.name f.name), slot :: slots)
  | slots, _ => (.ok (), slots)

/-- Check a list of sort keys in turn, up to the first that is refused. -/
def acceptAll (g : TypeGuard) : List Row → Except Failure Unit × TypeGuard
  | [] => (.ok (), g)
  | key :: keys =>
    match g.accept key with
    | (.ok (), g) => g.acceptAll keys
    | (.error e, g) => (.error e, g)

end TypeGuard

end Confluence
