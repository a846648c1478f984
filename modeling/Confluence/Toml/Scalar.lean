import Confluence.Calendar
import Confluence.Number.Binary64.Basic
import Confluence.Toml.Basic
import Confluence.Toml.Text

/-!
# Numbers and times in TOML

Integers of 64 bits in four bases, floats, dates and times of day.
-/

namespace Confluence.Toml

/-! ### Numbers -/

/-- More digits after the first one; an underscore may stand between two digits. -/
def moreDigits (isDigit : Char → Bool) : List Char → List Char × List Char
  | '_' :: d :: s =>
    if isDigit d then
      let (ds, s) := moreDigits isDigit s
      (d :: ds, s)
    else ([], '_' :: d :: s)
  | d :: s =>
    if isDigit d then
      let (ds, s) := moreDigits isDigit s
      (d :: ds, s)
    else ([], d :: s)
  | [] => ([], [])

/-- One or more digits. -/
def readDigits? (isDigit : Char → Bool) : List Char → Option (List Char × List Char)
  | d :: s =>
    if isDigit d then
      let (ds, s) := moreDigits isDigit s
      some (d :: ds, s)
    else none
  | [] => none

/-- An optional sign; the answer is whether it is a minus. -/
def readSign : List Char → Bool × List Char
  | '-' :: s => (true, s)
  | '+' :: s => (false, s)
  | s => (false, s)

/-- The digits of a decimal integer: a zero in front stands alone. -/
def readWhole? : List Char → Option (List Char × List Char)
  | '0' :: s => some (['0'], s)
  | s => readDigits? Digits.isDigit s

/-- An integer, if it fits in 64 bits. -/
def integer? (n : Int) (s : List Char) : Option (Toml × List Char) :=
  if -(twoTo 63 : Int) ≤ n ∧ n < twoTo 63 then some (.integer n, s) else none

/-- An integer after the mark of its base. -/
def readBase? (base : Nat) (s : List Char) : Option (Toml × List Char) :=
  let isDigit (c : Char) : Bool :=
    match hexValue? c with
    | some d => d < base
    | none => false
  (readDigits? isDigit s).bind fun (ds, s) =>
    integer? (ds.foldl (fun n c => base * n + (hexValue? c).getD 0) 0 : Nat) s

def readInteger? : List Char → Option (Toml × List Char)
  | '0' :: 'x' :: s => readBase? 16 s
  | '0' :: 'o' :: s => readBase? 8 s
  | '0' :: 'b' :: s => readBase? 2 s
  | s =>
    let (negative, s) := readSign s
    (readWhole? s).bind fun (ds, s) =>
      integer? (if negative then -(Digits.toNat ds : Int) else Digits.toNat ds) s

/-- The exponent of a float, if its mark follows. -/
def readExponent? : List Char → Option (Int × List Char)
  | c :: s =>
    if c = 'e' ∨ c = 'E' then
      let (negative, s) := readSign s
      (readDigits? Digits.isDigit s).map fun (ds, s) =>
        (if negative then -(Digits.toNat ds : Int) else Digits.toNat ds, s)
    else none
  | [] => none

/-- A float with the given parts; one that is rounded to positive infinity is refused. -/
def float? (negative : Bool) (digits : List Char) (exponent : Int) (s : List Char) :
    Option (Toml × List Char) :=
  if Binary64.ofScientific negative (Digits.toNat digits) exponent = .infinity false then none
  else some (.float, s)

/-- A word for an infinity or NaN. -/
def readSpecial? : List Char → Option (Toml × List Char)
  | 'i' :: 'n' :: 'f' :: s => some (.float, s)
  | 'n' :: 'a' :: 'n' :: s => some (.float, s)
  | _ => none

/-- A float: it has a fraction, an exponent or both, or is a word. -/
def readFloat? (s : List Char) : Option (Toml × List Char) :=
  let (negative, s) := readSign s
  match readWhole? s with
  | none => readSpecial? s
  | some (whole, s) =>
    match s with
    | '.' :: s =>
      match readDigits? Digits.isDigit s with
      | none => none
      | some (fraction, s) =>
        match readExponent? s with
        | some (e, s) => float? negative (whole ++ fraction) (e - fraction.length) s
        | none => float? negative (whole ++ fraction) (-fraction.length) s
    | s => (readExponent? s).bind fun (e, s) => float? negative whole e s

/-! ### Dates and times -/

/-- A number with exactly the given number of digits. -/
def readFixed? (width : Nat) (s : List Char) : Option (Nat × List Char) :=
  let ds := s.take width
  if ds.length = width ∧ ds.all Digits.isDigit then some (Digits.toNat ds, s.drop width) else none

def readDate? (s : List Char) : Option (List Char) := do
  let (year, s) ← readFixed? 4 s
  let s ← Calendar.readMark? '-' s
  let (month, s) ← readFixed? 2 s
  let s ← Calendar.readMark? '-' s
  let (day, s) ← readFixed? 2 s
  if (⟨year, month, day⟩ : Calendar.Date).Valid then some s else none

/-- The fraction of a second, if there is one. -/
def skipSecondFraction : List Char → List Char
  | '.' :: d :: s => if Digits.isDigit d then s.dropWhile Digits.isDigit else '.' :: d :: s
  | s => s

def readTime? (s : List Char) : Option (List Char) := do
  let (hour, s) ← readFixed? 2 s
  let s ← Calendar.readMark? ':' s
  let (minute, s) ← readFixed? 2 s
  let s ← Calendar.readMark? ':' s
  let (second, s) ← readFixed? 2 s
  if hour ≤ 23 ∧ minute ≤ 59 ∧ second ≤ 60 then some (skipSecondFraction s) else none

/-- The offset from universal time. -/
def readOffset? : List Char → Option (List Char)
  | 'Z' :: s => some s
  | 'z' :: s => some s
  | c :: s =>
    if c = '+' ∨ c = '-' then do
      let (hour, s) ← readFixed? 2 s
      let s ← Calendar.readMark? ':' s
      let (minute, s) ← readFixed? 2 s
      if hour ≤ 23 ∧ minute ≤ 59 then some s else none
    else none
  | [] => none

/-- The time after a date, if there is one. -/
def skipTime : List Char → List Char
  | c :: s =>
    if c = 'T' ∨ c = 't' ∨ c = ' ' then
      match readTime? s with
      | some s => (readOffset? s).getD s
      | none => c :: s
    else c :: s
  | [] => []

/-- A date, a time of day, or a date with a time. -/
def readDateTime? (s : List Char) : Option (Toml × List Char) :=
  match readDate? s with
  | some s => some (.dateTime, skipTime s)
  | none => (readTime? s).map fun s => (.dateTime, s)

end Confluence.Toml
