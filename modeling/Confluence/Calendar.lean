import Confluence.Number.Digits
import Confluence.Number.Signed
import Confluence.Text.Blank

/-!
# Calendar dates and times of day

Days are counted from 1970-01-01 in the proleptic Gregorian calendar, and instants in
microseconds from its midnight. Dates are written `year-month-day` and instants
`year-month-day hour:minute:second`; the years from -262143 to 262142 can be written and read.
-/

namespace Confluence.Calendar

/-- A day by year, month from 1 and day of the month from 1. -/
structure Date where
  year : Int
  month : Nat
  day : Nat
deriving DecidableEq

/-! ### Days and dates -/

def isLeap (year : Int) : Bool := year % 4 = 0 && (year % 100 ≠ 0 || year % 400 = 0)

def daysInMonth (year : Int) (month : Nat) : Nat :=
  if month = 2 then (if isLeap year then 29 else 28)
  else if month = 4 ∨ month = 6 ∨ month = 9 ∨ month = 11 then 30
  else 31

/-- Whether a date exists in the calendar. -/
def Date.Valid (d : Date) : Prop :=
  1 ≤ d.month ∧ d.month ≤ 12 ∧ 1 ≤ d.day ∧ d.day ≤ daysInMonth d.year d.month

instance (d : Date) : Decidable d.Valid := inferInstanceAs (Decidable (_ ∧ _ ∧ _ ∧ _))

/-- The number of days from 0000-03-01 to 1970-01-01. Counting years from March puts the leap day
at their end. -/
def epochFromMarch : Int := 719468

/-- The date of a day. In its cycle of 400 years, the year is found by taking the leap days out
of the count of days. -/
def dateOfDay (n : Int) : Date :=
  let z := n + epochFromMarch
  let cycle := z / 146097
  let dayOfCycle := z % 146097
  let yearOfCycle :=
    (dayOfCycle - dayOfCycle / 1460 + dayOfCycle / 36524 - dayOfCycle / 146096) / 365
  let dayOfYear := dayOfCycle - (365 * yearOfCycle + yearOfCycle / 4 - yearOfCycle / 100)
  let marchMonth := (5 * dayOfYear + 2) / 153
  let day := dayOfYear - (153 * marchMonth + 2) / 5 + 1
  let month := if marchMonth < 10 then marchMonth + 3 else marchMonth - 9
  let year := yearOfCycle + 400 * cycle + (if month ≤ 2 then 1 else 0)
  ⟨year, month.toNat, day.toNat⟩

/-- The day of a date. -/
def dayOfDate (d : Date) : Int :=
  let year := if d.month ≤ 2 then d.year - 1 else d.year
  let cycle := year / 400
  let yearOfCycle := year % 400
  let marchMonth : Int := if d.month > 2 then d.month - 3 else d.month + 9
  let dayOfYear := (153 * marchMonth + 2) / 5 + d.day - 1
  let dayOfCycle := 365 * yearOfCycle + yearOfCycle / 4 - yearOfCycle / 100 + dayOfYear
  146097 * cycle + dayOfCycle - epochFromMarch

/-- Whether a year can be written and read. -/
def YearInRange (year : Int) : Prop := -262143 ≤ year ∧ year ≤ 262142

instance (y : Int) : Decidable (YearInRange y) := inferInstanceAs (Decidable (_ ∧ _))

/-! ### Writing -/

/-- A number with leading zeros up to `width` digits. -/
def padded (width n : Nat) : List Char :=
  let ds := Digits.ofNat n
  List.replicate (width - ds.length) '0' ++ ds

/-- A year with at least four digits, and with a sign unless it lies between 0 and 9999. -/
def yearText (y : Int) : List Char :=
  if 0 ≤ y ∧ y ≤ 9999 then padded 4 y.natAbs
  else (if y < 0 then '-' else '+') :: padded 4 y.natAbs

def dateText (d : Date) : List Char :=
  yearText d.year ++ '-' :: padded 2 d.month ++ '-' :: padded 2 d.day

/-- The text of a day, unless its year is out of range. -/
def dayText? (n : Int) : Option (List Char) :=
  let d := dateOfDay n
  if YearInRange d.year then some (dateText d) else none

def secondsPerDay : Int := 86400

def microsPerSecond : Int := 1000000

/-- The text of an instant: its parts below the second are dropped. -/
def instantText? (micros : Int) : Option (List Char) :=
  let seconds := micros / microsPerSecond
  let ofDay := (seconds % secondsPerDay).toNat
  (dayText? (seconds / secondsPerDay)).map fun date =>
    date ++ ' ' :: padded 2 (ofDay / 3600) ++ ':' :: padded 2 (ofDay / 60 % 60) ++
      ':' :: padded 2 (ofDay % 60)

/-! ### Reading

Each reader takes a field off the front of a text and gives the text after it. -/

/-- A number after any blanks: as many digits as there are, but at most `width`. -/
def readNumber? (width : Nat) (s : List Char) : Option (Nat × List Char) :=
  let s := Text.trimStart s
  let ds := (s.take width).takeWhile Digits.isDigit
  if ds = [] then none else some (Digits.toNat ds, s.drop ds.length)

/-- A year after any blanks: at most four digits, or any number of them after a sign. -/
def readYear? (s : List Char) : Option (Int × List Char) :=
  match Text.trimStart s with
  | '-' :: r => (readSigned? r).map fun (n, r) => (-(n : Int), r)
  | '+' :: r => (readSigned? r).map fun (n, r) => ((n : Int), r)
  | s => (readNumber? 4 s).map fun (n, r) => ((n : Int), r)
where
  /-- The digits after a sign. -/
  readSigned? (r : List Char) : Option (Nat × List Char) :=
    let ds := r.takeWhile Digits.isDigit
    if ds = [] then none else some (Digits.toNat ds, r.drop ds.length)

/-- A given character. -/
def readMark? (c : Char) : List Char → Option (List Char)
  | d :: r => if c = d then some r else none
  | [] => none

/-- A date, as it is written; the month and the day may have one digit. -/
def readDate? (s : List Char) : Option (Date × List Char) := do
  let (year, s) ← readYear? s
  let s ← readMark? '-' s
  let (month, s) ← readNumber? 2 s
  let s ← readMark? '-' s
  let (day, s) ← readNumber? 2 s
  let d : Date := ⟨year, month, day⟩
  if d.Valid ∧ YearInRange year then some (d, s) else none

/-- A time of day in seconds. The second 60 is a leap second: it counts as the first second of
the next minute. -/
def readTime? (s : List Char) : Option (Nat × List Char) := do
  let (hour, s) ← readNumber? 2 s
  let s ← readMark? ':' s
  let (minute, s) ← readNumber? 2 s
  let s ← readMark? ':' s
  let (second, s) ← readNumber? 2 s
  if hour ≤ 23 ∧ minute ≤ 59 ∧ second ≤ 60 then some (3600 * hour + 60 * minute + second, s)
  else none

/-- The day that a whole text writes. -/
def dayOfText? (s : List Char) : Option Int :=
  match readDate? s with
  | some (d, []) => some (dayOfDate d)
  | _ => none

/-- The instant that a whole text writes, as microseconds. Any number of blanks may stand between
the date and the time. -/
def instantOfText? (s : List Char) : Option Int := do
  let (d, s) ← readDate? s
  let (seconds, s) ← readTime? s
  if s = [] then some ((dayOfDate d * secondsPerDay + seconds) * microsPerSecond) else none

end Confluence.Calendar
