import Confluence.Calendar
import Mathlib.Tactic.Common
import Mathlib.Tactic.IntervalCases

/-!
# Days and their dates

Counted from March, a day has a cycle of 400 years, a year of the cycle, a month of the year and a
place in the month, and the leap day is the last day of its year. Every day has one such position
and every date that exists has one, so days and dates stand for each other. The day after a day has
the date after its date, and the days of the years that can be written lie between two bounds.
-/

namespace Confluence.Calendar

/-! ### Years of a cycle -/

/-- The days of a cycle before a year. -/
def yearStart (y : Int) : Int := 365 * y + y / 4 - y / 100

/-- The days of a year. Its leap day belongs to the civil year after it. -/
def yearLength (y : Int) : Int := if isLeap (y + 1) then 366 else 365

/-- A day of a cycle with the leap days before it taken out. -/
def withoutLeapDays (d : Int) : Int := d - d / 1460 + d / 36524 - d / 146096

lemma isLeap_iff {y : Int} : isLeap y = true ↔ y % 4 = 0 ∧ (y % 100 ≠ 0 ∨ y % 400 = 0) := by
  simp [isLeap]

lemma yearLength_cases (y : Int) :
    yearLength y = 366 ∧ (y + 1) % 4 = 0 ∧ ((y + 1) % 100 ≠ 0 ∨ (y + 1) % 400 = 0) ∨
      yearLength y = 365 ∧ ¬ ((y + 1) % 4 = 0 ∧ ((y + 1) % 100 ≠ 0 ∨ (y + 1) % 400 = 0)) := by
  rw [← isLeap_iff, yearLength]
  split
  next h => exact Or.inl ⟨rfl, h⟩
  next h => exact Or.inr ⟨rfl, h⟩

lemma withoutLeapDays_mono {d : Int} (hd : 0 ≤ d) (k : Nat) (hk : d + k < 146097) :
    withoutLeapDays d ≤ withoutLeapDays (d + k) := by
  induction k with
  | zero => simp
  | succ k ih =>
    have hstep : withoutLeapDays (d + k) ≤ withoutLeapDays (d + k + 1) := by
      rw [withoutLeapDays, withoutLeapDays]
      omega
    rw [Nat.cast_succ, ← Int.add_assoc]
    exact Int.le_trans (ih (by omega)) hstep

lemma withoutLeapDays_le {d d' : Int} (hd : 0 ≤ d) (h : d ≤ d') (hd' : d' < 146097) :
    withoutLeapDays d ≤ withoutLeapDays d' := by
  obtain ⟨k, rfl⟩ := Int.le.dest h
  exact withoutLeapDays_mono hd k hd'

section Year

variable {y : Int} (h₀ : 0 ≤ y) (h₁ : y < 400)

include h₀ h₁

/-- A year of a cycle by its century, its group of four years there, and its place in the group. -/
lemma exists_century : ∃ h t u : Int, y = 100 * h + 4 * t + u ∧
    (0 ≤ h ∧ h ≤ 3) ∧ (0 ≤ t ∧ t ≤ 24) ∧ 0 ≤ u ∧ u ≤ 3 :=
  ⟨y / 100, y % 100 / 4, y % 4, by omega⟩

lemma withoutLeapDays_yearStart : withoutLeapDays (yearStart y) = 365 * y := by
  obtain ⟨h, t, u, rfl, hh, ht, hu⟩ := exists_century h₀ h₁
  have hstart : yearStart (100 * h + 4 * t + u) = 36524 * h + 1461 * t + 365 * u := by
    rw [yearStart]
    omega
  have hfours : (36524 * h + 1461 * t + 365 * u) / 1460 = 25 * h + t := by omega
  have hcenturies : (36524 * h + 1461 * t + 365 * u) / 36524 = h := by omega
  rw [hstart, withoutLeapDays, hfours, hcenturies]
  omega

/-- The last day of a year comes before the 365 days of the next one. -/
lemma withoutLeapDays_lastDay :
    withoutLeapDays (yearStart y + yearLength y - 1) < 365 * (y + 1) := by
  have hlength := yearLength_cases y
  obtain ⟨h, t, u, rfl, hh, ht, hu⟩ := exists_century h₀ h₁
  have hstart : yearStart (100 * h + 4 * t + u) = 36524 * h + 1461 * t + 365 * u := by
    rw [yearStart]
    omega
  rw [hstart, withoutLeapDays]
  rcases hlength with ⟨heq, hleap⟩ | ⟨heq, hcommon⟩
  · obtain rfl : u = 3 := by omega
    rw [heq]
    rcases Int.lt_or_le t 24 with ht' | ht'
    · have hfours : (36524 * h + 1461 * t + 365 * 3 + 366 - 1) / 1460 = 25 * h + t + 1 := by omega
      have hcenturies : (36524 * h + 1461 * t + 365 * 3 + 366 - 1) / 36524 = h := by omega
      rw [hfours, hcenturies]
      omega
    · -- The cycle ends with a leap day.
      obtain ⟨rfl, rfl⟩ : t = 24 ∧ h = 3 := by omega
      decide
  · rw [heq]
    rcases Int.lt_or_le u 3 with hu' | hu'
    · have hfours : (36524 * h + 1461 * t + 365 * u + 365 - 1) / 1460 = 25 * h + t := by omega
      have hcenturies : (36524 * h + 1461 * t + 365 * u + 365 - 1) / 36524 = h := by omega
      rw [hfours, hcenturies]
      omega
    · -- The century ends without one.
      obtain ⟨rfl, rfl⟩ : u = 3 ∧ t = 24 := by omega
      have hfours : (36524 * h + 1461 * 24 + 365 * 3 + 365 - 1) / 1460 = 25 * h + 25 := by omega
      have hcenturies : (36524 * h + 1461 * 24 + 365 * 3 + 365 - 1) / 36524 = h := by omega
      rw [hfours, hcenturies]
      omega

lemma yearStart_add_yearLength_le : yearStart y + yearLength y ≤ 146097 := by
  have hlength := yearLength_cases y
  rw [yearStart]
  omega

lemma yearStart_nonneg : 0 ≤ yearStart y := by
  rw [yearStart]
  omega

lemma yearStart_succ (h : y < 399) : yearStart (y + 1) = yearStart y + yearLength y := by
  have hlength := yearLength_cases y
  rw [yearStart, yearStart]
  omega

lemma withoutLeapDays_div_eq {d : Int} (hd : yearStart y ≤ d)
    (hd' : d < yearStart y + yearLength y) : withoutLeapDays d / 365 = y := by
  have hstart := withoutLeapDays_yearStart h₀ h₁
  have hend := withoutLeapDays_lastDay h₀ h₁
  have hnonneg := yearStart_nonneg h₀ h₁
  have hcycle := yearStart_add_yearLength_le h₀ h₁
  have hle := withoutLeapDays_le hnonneg hd (by omega)
  have hge : withoutLeapDays d ≤ _ :=
    withoutLeapDays_le (Int.le_trans hnonneg hd) (Int.le_sub_one_of_lt hd') (by omega)
  omega

end Year

/-- Every day of a cycle lies in one of its years. -/
lemma exists_year {d : Int} (h₀ : 0 ≤ d) (h₁ : d < 146097) :
    ∃ y, 0 ≤ y ∧ y < 400 ∧ yearStart y ≤ d ∧ d < yearStart y + yearLength y := by
  have hlt (k : Nat) (hk : (k : Int) < 400) (hd : d < yearStart k + yearLength k) :
      ∃ y, 0 ≤ y ∧ y < 400 ∧ yearStart y ≤ d ∧ d < yearStart y + yearLength y := by
    induction k with
    | zero => exact ⟨0, by decide, by decide, h₀, hd⟩
    | succ k ih =>
      rcases Int.lt_or_le d (yearStart (k + 1)) with hbefore | hafter
      · rw [yearStart_succ (Int.natCast_nonneg k) (by omega) (by omega)] at hbefore
        exact ih (by omega) hbefore
      · exact ⟨k + 1, by omega, by omega, hafter, hd⟩
  exact hlt 399 (by decide) h₁

/-! ### Months of a year -/

/-- The days of a year before a month, counted from March. -/
def monthStart (m : Int) : Int := (153 * m + 2) / 5

/-- The days of a month. February is the last one. -/
def monthLength (y m : Int) : Int :=
  if m = 11 then yearLength y - monthStart 11 else monthStart (m + 1) - monthStart m

lemma monthStart_le_iff {m d : Int} : monthStart m ≤ d ↔ m ≤ (5 * d + 2) / 153 := by
  rw [monthStart]
  omega

/-- Every day of a year lies in one of its months. -/
lemma exists_month {y d : Int} (h₀ : 0 ≤ d) (h₁ : d < yearLength y) :
    ∃ m, 0 ≤ m ∧ m ≤ 11 ∧ monthStart m ≤ d ∧ d < monthStart m + monthLength y m := by
  have hlength := yearLength_cases y
  have hlast : ¬ monthStart ((5 * d + 2) / 153 + 1) ≤ d := by
    rw [monthStart_le_iff]
    omega
  refine ⟨(5 * d + 2) / 153, by omega, by omega, monthStart_le_iff.mpr (Int.le_refl _), ?_⟩
  rw [monthLength]
  split
  next h =>
    rw [h]
    omega
  next => omega

/-! ### Positions in the calendar -/

/-- The position of a day, with all counts from 0. -/
structure Position where
  cycle : Int
  year : Int
  month : Int
  day : Int

namespace Position

/-- A position that exists in the calendar. -/
structure Exists (p : Position) : Prop where
  year_nonneg : 0 ≤ p.year
  year_lt : p.year < 400
  month_nonneg : 0 ≤ p.month
  month_le : p.month ≤ 11
  day_nonneg : 0 ≤ p.day
  day_lt : p.day < monthLength p.year p.month

/-- The day of the year. -/
def dayOfYear (p : Position) : Int := monthStart p.month + p.day

/-- The day that has a position. -/
def number (p : Position) : Int :=
  146097 * p.cycle + yearStart p.year + p.dayOfYear - epochFromMarch

/-- The date that has a position. January and February belong to the civil year after theirs. -/
def date (p : Position) : Date where
  year := p.year + 400 * p.cycle + if p.month < 10 then 0 else 1
  month := (if p.month < 10 then p.month + 3 else p.month - 9).toNat
  day := (p.day + 1).toNat

variable {p : Position}

lemma Exists.dayOfYear_nonneg (h : p.Exists) : 0 ≤ p.dayOfYear := by
  have := h.month_nonneg
  have := h.day_nonneg
  rw [dayOfYear, monthStart]
  omega

lemma Exists.dayOfYear_lt (h : p.Exists) : p.dayOfYear < yearLength p.year := by
  have hday := h.day_lt
  have := h.month_le
  have hyear := yearLength_cases p.year
  rw [monthLength] at hday
  rw [dayOfYear]
  split at hday
  next hm =>
    rw [hm]
    omega
  next hm =>
    simp only [monthStart] at *
    omega

/-- Where a day of a year lies among the months. -/
lemma Exists.month_eq (h : p.Exists) : (5 * p.dayOfYear + 2) / 153 = p.month := by
  have hday := h.day_lt
  have := h.day_nonneg
  have hyear := yearLength_cases p.year
  rw [monthLength] at hday
  rw [dayOfYear]
  split at hday
  next hm =>
    rw [hm, monthStart] at *
    omega
  next hm =>
    simp only [monthStart] at *
    omega

lemma Exists.dateOfDay_number (h : p.Exists) : dateOfDay p.number = p.date := by
  have hfirst := h.dayOfYear_nonneg
  have hlast := h.dayOfYear_lt
  have hstart := yearStart_nonneg h.year_nonneg h.year_lt
  have hend := yearStart_add_yearLength_le h.year_nonneg h.year_lt
  have hz : p.number + epochFromMarch = 146097 * p.cycle + (yearStart p.year + p.dayOfYear) := by
    rw [number]
    omega
  have hcycle : (p.number + epochFromMarch) / 146097 = p.cycle := by omega
  have hday : (p.number + epochFromMarch) % 146097 = yearStart p.year + p.dayOfYear := by omega
  have hyear : withoutLeapDays (yearStart p.year + p.dayOfYear) / 365 = p.year :=
    withoutLeapDays_div_eq h.year_nonneg h.year_lt (by omega) (by omega)
  have hrest : yearStart p.year + p.dayOfYear -
      (365 * p.year + p.year / 4 - p.year / 100) = p.dayOfYear := by
    rw [yearStart]
    omega
  have hplace : p.dayOfYear - (153 * p.month + 2) / 5 + 1 = p.day + 1 := by
    rw [dayOfYear, monthStart]
    omega
  have hmonth := h.month_nonneg
  have hmonth' := h.month_le
  rw [withoutLeapDays] at hyear
  simp only [dateOfDay, hcycle, hday, hyear, hrest, h.month_eq, hplace, date, Date.mk.injEq,
    and_true]
  split
  · rw [if_neg (by omega)]
  · rw [if_pos (by omega)]

lemma date_of_lt (h : p.month < 10) :
    p.date = ⟨p.year + 400 * p.cycle, (p.month + 3).toNat, (p.day + 1).toNat⟩ := by
  simp [date, h]

lemma date_of_le (h : 10 ≤ p.month) :
    p.date = ⟨p.year + 400 * p.cycle + 1, (p.month - 9).toNat, (p.day + 1).toNat⟩ := by
  simp [date, Int.not_lt.mpr h]

lemma Exists.dayOfDate_date (h : p.Exists) : dayOfDate p.date = p.number := by
  obtain ⟨hy, hy', hm, hm', hd, -⟩ := h
  rcases Int.lt_or_le p.month 10 with hmonth | hmonth
  · have hcivil : ¬ (p.month + 3).toNat ≤ 2 := by omega
    have hcycle : (p.year + 400 * p.cycle) / 400 = p.cycle := by omega
    have hyear : (p.year + 400 * p.cycle) % 400 = p.year := by omega
    rw [date_of_lt hmonth, number, dayOfYear, yearStart, monthStart]
    simp only [dayOfDate, if_neg hcivil, if_pos (Nat.lt_of_not_le hcivil), hcycle, hyear]
    omega
  · have hcivil : (p.month - 9).toNat ≤ 2 := by omega
    have hcycle : (p.year + 400 * p.cycle + 1 - 1) / 400 = p.cycle := by omega
    have hyear : (p.year + 400 * p.cycle + 1 - 1) % 400 = p.year := by omega
    rw [date_of_le hmonth, number, dayOfYear, yearStart, monthStart]
    simp only [dayOfDate, if_pos hcivil, gt_iff_lt, if_neg (Nat.not_lt.mpr hcivil), hcycle, hyear]
    omega

/-- The months of a date are as long as those of its position. -/
lemma daysInMonth_date (hm : 0 ≤ p.month) (hm' : p.month ≤ 11) :
    (daysInMonth p.date.year p.date.month : Int) = monthLength p.year p.month := by
  have hleap : isLeap (p.year + 400 * p.cycle + 1) = isLeap (p.year + 1) := by
    rw [Bool.eq_iff_iff, isLeap_iff, isLeap_iff]
    omega
  obtain ⟨cycle, year, month, day⟩ := p
  dsimp only at *
  interval_cases month
  all_goals simp [date, daysInMonth, monthLength, monthStart, yearLength, hleap]
  split
  · rfl
  · rfl

lemma Exists.valid_date (h : p.Exists) : p.date.Valid := by
  have hlength := daysInMonth_date h.month_nonneg h.month_le
  have hday := h.day_lt
  obtain ⟨-, -, hm, hm', hd, -⟩ := h
  rw [← hlength] at hday
  have hmonth : 1 ≤ p.date.month ∧ p.date.month ≤ 12 := by
    rw [date]
    dsimp only
    split
    · omega
    · omega
  refine ⟨hmonth.1, hmonth.2, ?_⟩
  have : p.date.day = (p.day + 1).toNat := rfl
  omega

lemma exists_number_eq (n : Int) : ∃ p : Position, p.Exists ∧ p.number = n := by
  have hcycle := Int.emod_nonneg (n + epochFromMarch) (b := 146097) (by decide)
  have hcycle' := Int.emod_lt_of_pos (n + epochFromMarch) (b := 146097) (by decide)
  obtain ⟨y, hy, hy', hstart, hend⟩ := exists_year hcycle hcycle'
  obtain ⟨m, hm, hm', hday, hday'⟩ := exists_month (y := y)
    (d := (n + epochFromMarch) % 146097 - yearStart y) (by omega) (by omega)
  refine ⟨⟨(n + epochFromMarch) / 146097, y, m,
    (n + epochFromMarch) % 146097 - yearStart y - monthStart m⟩, ⟨hy, hy', hm, hm', ?_, ?_⟩, ?_⟩
  · exact Int.sub_nonneg_of_le hday
  · exact Int.sub_left_lt_of_lt_add hday'
  · simp only [number, dayOfYear]
    omega

lemma exists_of_date_eq {d : Date} (h : d.Valid) {y m : Int} (hm : 0 ≤ m) (hm' : m ≤ 11)
    (hdate : (Position.mk (y / 400) (y % 400) m (d.day - 1)).date = d) :
    ∃ p : Position, p.Exists ∧ p.date = d := by
  have hlength := daysInMonth_date (p := ⟨y / 400, y % 400, m, d.day - 1⟩) hm hm'
  obtain ⟨-, -, hd, hd'⟩ := h
  rw [hdate] at hlength
  refine ⟨_, ⟨?_, ?_, hm, hm', ?_, ?_⟩, hdate⟩
  · exact Int.emod_nonneg y (by decide)
  · exact Int.emod_lt_of_pos y (by decide)
  · dsimp only
    omega
  · rw [← hlength]
    dsimp only
    omega

lemma exists_date_eq {d : Date} (h : d.Valid) : ∃ p : Position, p.Exists ∧ p.date = d := by
  obtain ⟨hm, hm', hd, -⟩ := id h
  obtain ⟨year, month, day⟩ := d
  dsimp only at hm hm' hd
  rcases Nat.lt_or_ge 2 month with hmonth | hmonth
  · apply exists_of_date_eq h (y := year) (m := month - 3) (by omega) (by omega)
    rw [date_of_lt (by dsimp only; omega), Date.mk.injEq]
    dsimp only
    omega
  · apply exists_of_date_eq h (y := year - 1) (m := month + 9) (by omega) (by omega)
    rw [date_of_le (by dsimp only; omega), Date.mk.injEq]
    dsimp only
    omega

end Position

/-! ### Days and dates -/

/-- The date of a day exists in the calendar. -/
theorem valid_dateOfDay (n : Int) : (dateOfDay n).Valid := by
  obtain ⟨p, hp, rfl⟩ := Position.exists_number_eq n
  rw [hp.dateOfDay_number]
  exact hp.valid_date

@[simp] theorem dayOfDate_dateOfDay (n : Int) : dayOfDate (dateOfDay n) = n := by
  obtain ⟨p, hp, rfl⟩ := Position.exists_number_eq n
  rw [hp.dateOfDay_number, hp.dayOfDate_date]

theorem Date.Valid.dateOfDay_dayOfDate {d : Date} (h : d.Valid) : dateOfDay (dayOfDate d) = d := by
  obtain ⟨p, hp, rfl⟩ := Position.exists_date_eq h
  rw [hp.dayOfDate_date, hp.dateOfDay_number]

/-- The date after a date. -/
def Date.next (d : Date) : Date :=
  if d.day < daysInMonth d.year d.month then ⟨d.year, d.month, d.day + 1⟩
  else if d.month < 12 then ⟨d.year, d.month + 1, 1⟩
  else ⟨d.year + 1, 1, 1⟩

lemma one_le_daysInMonth (y : Int) (m : Nat) : 1 ≤ daysInMonth y m := by
  rw [daysInMonth]
  split_ifs <;> decide

lemma daysInMonth_le (y : Int) (m : Nat) : daysInMonth y m ≤ 31 := by
  rw [daysInMonth]
  split_ifs <;> decide

lemma Date.Valid.next {d : Date} (h : d.Valid) : d.next.Valid := by
  obtain ⟨hm, hm', hd, hd'⟩ := h
  rw [Date.next]
  split
  next hday => exact ⟨hm, hm', Nat.succ_pos d.day, hday⟩
  next =>
    split
    next hmonth => exact ⟨Nat.succ_pos d.month, hmonth, Nat.le_refl 1, one_le_daysInMonth _ _⟩
    next => exact ⟨Nat.le_refl 1, Nat.le_of_ble_eq_true rfl, Nat.le_refl 1, one_le_daysInMonth _ _⟩

/-- The days before the first of March of a year, from that of the year 0 on. -/
def daysBefore (y : Int) : Int := 365 * y + y / 4 - y / 100 + y / 400

lemma cycles_add_yearStart (y : Int) : 146097 * (y / 400) + yearStart (y % 400) = daysBefore y := by
  rw [yearStart, daysBefore]
  omega

/-- Between two firsts of March lies the leap day of the second year, if it has one. -/
lemma daysBefore_eq (y : Int) :
    daysBefore y = daysBefore (y - 1) + if isLeap y then 366 else 365 := by
  have hlength := yearLength_cases (y - 1)
  rw [yearLength, Int.sub_add_cancel] at hlength
  rw [daysBefore, daysBefore]
  omega

/-- A date from March on. -/
lemma dayOfDate_of_lt {d : Date} (h : 2 < d.month) :
    dayOfDate d = daysBefore d.year + monthStart (d.month - 3) + d.day - 1 - epochFromMarch := by
  rw [← cycles_add_yearStart, yearStart, monthStart]
  simp only [dayOfDate, if_neg (Nat.not_le.mpr h), gt_iff_lt, if_pos h]
  omega

/-- A date before March. -/
lemma dayOfDate_of_le {d : Date} (h : d.month ≤ 2) :
    dayOfDate d = daysBefore (d.year - 1) + monthStart (d.month + 9) + d.day - 1 -
      epochFromMarch := by
  rw [← cycles_add_yearStart, yearStart, monthStart]
  simp only [dayOfDate, if_pos h, gt_iff_lt, if_neg (Nat.not_lt.mpr h)]
  omega

lemma Date.Valid.dayOfDate_next {d : Date} (h : d.Valid) : dayOfDate d.next = dayOfDate d + 1 := by
  obtain ⟨year, month, day⟩ := d
  obtain ⟨hm, hm', hd, hd'⟩ := h
  have hleap := daysBefore_eq year
  dsimp only at hm hm' hd hd'
  rw [Date.next]
  dsimp only
  split
  next hday =>
    rcases Nat.lt_or_ge 2 month with hmonth | hmonth
    · rw [dayOfDate_of_lt hmonth, dayOfDate_of_lt hmonth]
      dsimp only
      omega
    · rw [dayOfDate_of_le hmonth, dayOfDate_of_le hmonth]
      dsimp only
      omega
  next hday =>
    obtain rfl : day = daysInMonth year month := Nat.le_antisymm hd' (Nat.not_lt.mp hday)
    interval_cases month
    case «2» =>
      -- Only the length of February depends on the year.
      rw [if_pos (by decide), dayOfDate_of_lt (Nat.lt_succ_self 2), dayOfDate_of_le (Nat.le_refl 2)]
      simp only [daysInMonth, if_true, hleap, monthStart]
      split
      · omega
      · omega
    all_goals
      simp [dayOfDate_of_le, dayOfDate_of_lt, daysInMonth, monthStart]
      omega

/-- The day after a day has the date after its date. -/
theorem dateOfDay_succ (n : Int) : dateOfDay (n + 1) = (dateOfDay n).next := by
  have hvalid := valid_dateOfDay n
  rw [← hvalid.next.dateOfDay_dayOfDate, hvalid.dayOfDate_next, dayOfDate_dateOfDay]

/-- An assignment of dates to days that follows the Gregorian calendar from the epoch on, in both
directions. -/
structure IsGregorian (dateOf : Int → Date) : Prop where
  epoch : dateOf 0 = ⟨1970, 1, 1⟩
  valid (n : Int) : (dateOf n).Valid
  succ (n : Int) : dateOf (n + 1) = (dateOf n).next

theorem isGregorian_dateOfDay : IsGregorian dateOfDay where
  epoch := rfl
  valid := valid_dateOfDay
  succ := dateOfDay_succ

/-- There is only one Gregorian calendar. -/
theorem IsGregorian.eq_dateOfDay {dateOf : Int → Date} (h : IsGregorian dateOf) (n : Int) :
    dateOf n = dateOfDay n := by
  have hday (n : Int) : dayOfDate (dateOf n) = n := by
    induction n with
    | zero =>
      rw [h.epoch]
      rfl
    | succ n ih => rw [h.succ, (h.valid n).dayOfDate_next, ih]
    | pred n ih =>
      have hstep := (h.valid (-n - 1)).dayOfDate_next
      rw [← h.succ, Int.sub_add_cancel, ih] at hstep
      omega
  rw [← (h.valid n).dateOfDay_dayOfDate, hday]

/-! ### Years -/

/-- The first day of a year. -/
def newYear (y : Int) : Int := dayOfDate ⟨y, 1, 1⟩

lemma newYear_eq (y : Int) : newYear y = daysBefore (y - 1) + 306 - epochFromMarch := by
  rw [newYear, dayOfDate_of_le (Nat.le_succ 1), monthStart]
  dsimp only
  omega

lemma newYear_le {y z : Int} (h : y ≤ z) : newYear y ≤ newYear z := by
  rw [newYear_eq, newYear_eq, daysBefore, daysBefore]
  omega

lemma Date.Valid.year_bounds {d : Date} (h : d.Valid) :
    newYear d.year ≤ dayOfDate d ∧ dayOfDate d < newYear (d.year + 1) := by
  obtain ⟨year, month, day⟩ := d
  obtain ⟨hm, hm', hd, hd'⟩ := h
  have hlast : day ≤ 31 := Nat.le_trans hd' (daysInMonth_le year month)
  have hyear := daysBefore_eq year
  rw [newYear_eq, newYear_eq, Int.add_sub_cancel]
  dsimp only at hm hm' hd ⊢
  rcases Nat.lt_or_ge 2 month with hmonth | hmonth
  · rw [dayOfDate_of_lt hmonth, monthStart]
    dsimp only
    omega
  · rw [dayOfDate_of_le hmonth, monthStart]
    dsimp only
    omega

/-- A day lies in a year or after it exactly from the first day of the year on. -/
theorem newYear_le_iff {y n : Int} : newYear y ≤ n ↔ y ≤ (dateOfDay n).year := by
  obtain ⟨hle, hlt⟩ := (valid_dateOfDay n).year_bounds
  rw [dayOfDate_dateOfDay] at hle hlt
  constructor
  · intro h
    by_contra! hyear
    exact Int.not_lt.mpr (Int.le_trans (newYear_le hyear) h) hlt
  · intro h
    exact Int.le_trans (newYear_le h) hle

/-- The days that can be written lie between the first days of two years. -/
theorem yearInRange_dateOfDay_iff {n : Int} :
    YearInRange (dateOfDay n).year ↔ newYear (-262143) ≤ n ∧ n < newYear 262143 := by
  rw [newYear_le_iff, ← Int.not_le, newYear_le_iff, YearInRange]
  omega

end Confluence.Calendar
