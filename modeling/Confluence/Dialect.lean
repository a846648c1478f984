import Confluence.Text.Blank
import Confluence.Text.Lowercase

/-!
# Dialects of row limits

How a database expresses that only some rows of a result are wanted.
-/

namespace Confluence

inductive Dialect where
  /-- `LIMIT n OFFSET m`. -/
  | native
  /-- Comparisons on a pseudo-column with the row number. -/
  | rownum
  /-- `TOP n` together with a comparison on the row number. -/
  | top
  /-- No dialect that is known; limits are not applied. -/
  | unknown
deriving DecidableEq

namespace Dialect

/-- The name that is shown for a dialect. -/
def name : Dialect → String
  | .native => "native-limit-offset"
  | .rownum => "rownum-pseudocolumn"
  | .top => "top-plus-rownumber"
  | .unknown => "unknown"

/-- The name of a dialect in stored shapes and configurations. -/
def tag : Dialect → String
  | .native => "native-limit-offset"
  | .rownum => "rownum-pseudocolumn"
  | .top => "top-plus-row-number"
  | .unknown => "unknown"

/-- The dialect with exactly the given tag. -/
def ofTag? (s : String) : Option Dialect :=
  [native, rownum, top, unknown].find? (·.tag = s)

theorem ofTag?_tag (d : Dialect) : ofTag? d.tag = some d := by
  cases d <;> decide

/-- The dialect that a user names, in any case, with blanks around it, or by a short name. What is
not recognised is an unknown dialect. -/
def ofName (s : String) : Dialect :=
  let word := String.ofList (Text.lower (Text.trim s.toList))
  if word = "native-limit-offset" ∨ word = "limit-offset" then .native
  else if word = "rownum-pseudocolumn" ∨ word = "rownum" then .rownum
  else if word = "top-plus-rownumber" ∨ word = "top-plus-row-number" ∨ word = "top" then .top
  else .unknown

end Dialect

end Confluence
