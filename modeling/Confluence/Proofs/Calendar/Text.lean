import Confluence.Proofs.Calendar.Days
import Confluence.Proofs.Number.Numerals

/-!
# The text of dates and instants

A reader takes off the front of a text what was written there and leaves the rest, so dates and
instants that are written are read back. The blank between date and time is the only one, and no
text that a date or an instant is written as begins or ends with it. A mere number is not a date.
-/

namespace Confluence

/-! ### Digits -/

namespace Digits

lemma length_write_le {n k : Nat} (h : n < tenTo (k + 1)) (fuel : Nat) :
    (write fuel n []).length ≤ k + 1 := by
  induction k generalizing n fuel with
  | zero =>
    have hn : n < 10 := h
    cases fuel with
    | zero => exact Nat.zero_le 1
    | succ fuel =>
      rw [write, if_pos hn]
      exact Nat.le_refl 1
  | succ k ih =>
    cases fuel with
    | zero => exact Nat.zero_le _
    | succ fuel =>
      rw [write]
      split
      · exact Nat.succ_le_succ (Nat.zero_le _)
      · have hdiv : n / 10 < tenTo (k + 1) := by
          rw [tenTo_add] at h
          exact Nat.div_lt_of_lt_mul (Nat.mul_comm _ _ ▸ h)
        rw [write_append, List.length_append]
        exact Nat.succ_le_succ (ih hdiv fuel)

lemma length_ofNat_le {n k : Nat} (h : n < tenTo (k + 1)) : (ofNat n).length ≤ k + 1 :=
  length_write_le h _

end Digits

/-! ### Blanks -/

lemma Text.trimStart_eq_self_of_head? {s : List Char} (h : ∀ c ∈ s.head?, isBlank c = false) :
    trimStart s = s := by
  cases s with
  | nil => rfl
  | cons c s => rw [trimStart, List.dropWhile_cons_of_neg (by simp [h c rfl])]

/-- Nothing is taken off a text that neither begins nor ends with a blank. -/
lemma Text.trim_append_eq_self {s t : List Char} (hs : s ≠ []) (ht : t ≠ [])
    (hs' : ∀ c ∈ s, isBlank c = false) (ht' : ∀ c ∈ t, isBlank c = false) (between : List Char) :
    trim (s ++ (between ++ t)) = s ++ (between ++ t) := by
  have hhead : ∀ c ∈ (s ++ (between ++ t)).head?, isBlank c = false := by
    intro c hc
    rw [List.head?_append_of_ne_nil s hs] at hc
    exact hs' c (List.mem_of_mem_head? hc)
  have hlast : ∀ c ∈ (s ++ (between ++ t)).reverse.head?, isBlank c = false := by
    intro c hc
    rw [List.reverse_append, List.reverse_append, List.append_assoc,
      List.head?_append_of_ne_nil _ (mt List.reverse_eq_nil_iff.mp ht)] at hc
    exact ht' c (List.mem_reverse.mp (List.mem_of_mem_head? hc))
  rw [trim, trimStart_eq_self_of_head? hhead, trimStart_eq_self_of_head? hlast,
    List.reverse_reverse]

namespace Calendar

open Digits

/-! ### Numbers with leading zeros -/

lemma allDigits_padded (width n : Nat) : AllDigits (padded width n) := by
  refine List.forall_mem_append.mpr ⟨?_, allDigits_ofNat n⟩
  intro c hc
  rw [List.eq_of_mem_replicate hc]
  rfl

lemma padded_ne_nil (width n : Nat) : padded width n ≠ [] :=
  List.append_ne_nil_of_right_ne_nil _ (ofNat_ne_nil n)

@[simp] lemma toNat_padded (width n : Nat) : toNat (padded width n) = n := by
  rw [padded, toNat_replicate_append, toNat_ofNat]

lemma length_padded {width n : Nat} (h : n < tenTo (width + 1)) :
    (padded (width + 1) n).length = width + 1 := by
  rw [padded, List.length_append, List.length_replicate]
  exact Nat.sub_add_cancel (length_ofNat_le h)

/-- A number that fills its field is read back. -/
lemma readNumber?_padded {width n : Nat} (h : n < tenTo (width + 1)) (rest : List Char) :
    readNumber? (width + 1) (padded (width + 1) n ++ rest) = some (n, rest) := by
  have hlength := length_padded h
  have hdigits := allDigits_padded (width + 1) n
  have hstart : Text.trimStart (padded (width + 1) n ++ rest) = padded (width + 1) n ++ rest := by
    apply Text.trimStart_eq_self_of_head?
    intro c hc
    rw [List.head?_append_of_ne_nil _ (padded_ne_nil _ _)] at hc
    exact Text.isBlank_of_isDigit (hdigits c (List.mem_of_mem_head? hc))
  have hall : (padded (width + 1) n).takeWhile isDigit = padded (width + 1) n := by
    simpa using takeWhile_append hdigits endsHere_nil
  simp only [readNumber?, hstart, List.take_left' hlength, hall, toNat_padded,
    if_neg (padded_ne_nil _ _), List.drop_left]

lemma readNumber?_two {n : Nat} (h : n < 100) (rest : List Char) :
    readNumber? 2 (padded 2 n ++ rest) = some (n, rest) :=
  readNumber?_padded h rest

@[simp] lemma readMark?_self (c : Char) (rest : List Char) : readMark? c (c :: rest) = some rest :=
  if_pos rfl

/-! ### Dates -/

lemma yearText_eq (y : Int) :
    yearText y = padded 4 y.natAbs ∧ 0 ≤ y ∧ y ≤ 9999 ∨
      yearText y = '-' :: padded 4 y.natAbs ∧ y < 0 ∨
        yearText y = '+' :: padded 4 y.natAbs ∧ 0 ≤ y := by
  rw [yearText]
  split
  next h => exact Or.inl ⟨rfl, h⟩
  next =>
    split
    next h => exact Or.inr (Or.inl ⟨rfl, h⟩)
    next h => exact Or.inr (Or.inr ⟨rfl, Int.not_lt.mp h⟩)

lemma readSigned?_padded (width n : Nat) {rest : List Char} (hrest : EndsHere rest) :
    readYear?.readSigned? (padded width n ++ rest) = some (n, rest) := by
  simp only [readYear?.readSigned?, takeWhile_append (allDigits_padded width n) hrest,
    if_neg (padded_ne_nil _ _), toNat_padded, List.drop_left]

/-- A year without sign is four digits. -/
lemma readYear?_digits {s : List Char} (h : ∃ c r, s = c :: r ∧ isDigit c = true) :
    readYear? s = (readNumber? 4 s).map fun (n, r) => ((n : Int), r) := by
  obtain ⟨c, r, rfl, hc⟩ := h
  obtain ⟨hplus, hminus, -⟩ := ne_of_isDigit hc
  have hstart : Text.trimStart (c :: r) = c :: r := by
    apply Text.trimStart_eq_self_of_head?
    rintro d ⟨⟩
    exact Text.isBlank_of_isDigit hc
  rw [readYear?, hstart]
  split
  next heq => exact absurd (List.cons.inj heq).1 hminus
  next heq => exact absurd (List.cons.inj heq).1 hplus
  next => rfl

lemma exists_cons_padded (width n : Nat) (rest : List Char) :
    ∃ c r, padded width n ++ rest = c :: r ∧ isDigit c = true := by
  obtain ⟨c, r, heq, hc⟩ := exists_cons_of_allDigits (allDigits_padded width n)
    (padded_ne_nil width n)
  exact ⟨c, r ++ rest, by rw [heq, List.cons_append], hc⟩

lemma readYear?_minus (r : List Char) :
    readYear? ('-' :: r) = (readYear?.readSigned? r).map fun (n, r) => (-(n : Int), r) := rfl

lemma readYear?_plus (r : List Char) :
    readYear? ('+' :: r) = (readYear?.readSigned? r).map fun (n, r) => ((n : Int), r) := rfl

lemma readYear?_yearText (y : Int) {rest : List Char} (hrest : EndsHere rest) :
    readYear? (yearText y ++ rest) = some (y, rest) := by
  rcases yearText_eq y with ⟨htext, hy, hy'⟩ | ⟨htext, hy⟩ | ⟨htext, hy⟩
  · have hlt : y.natAbs < 10000 := by omega
    rw [htext, readYear?_digits (exists_cons_padded 4 _ rest), readNumber?_padded hlt]
    simp [Int.natAbs_of_nonneg hy]
  · have hminus : -(y.natAbs : Int) = y := by omega
    rw [htext, List.cons_append, readYear?_minus, readSigned?_padded _ _ hrest]
    simp only [Option.map_some, hminus]
  · rw [htext, List.cons_append, readYear?_plus, readSigned?_padded _ _ hrest]
    simp only [Option.map_some, Int.natAbs_of_nonneg hy]

lemma dateText_eq (d : Date) (rest : List Char) : dateText d ++ rest =
    yearText d.year ++ '-' :: (padded 2 d.month ++ '-' :: (padded 2 d.day ++ rest)) := by
  simp [dateText]

/-- A date that is written is read back from the front of a text. -/
lemma readDate?_dateText {d : Date} (hd : d.Valid) (hyear : YearInRange d.year)
    (rest : List Char) : readDate? (dateText d ++ rest) = some (d, rest) := by
  have hmonth : d.month < 100 := Nat.lt_of_le_of_lt hd.2.1 (by decide)
  have hday : d.day < 100 :=
    Nat.lt_of_le_of_lt (Nat.le_trans hd.2.2.2 (daysInMonth_le _ _)) (by decide)
  rw [dateText_eq, readDate?, readYear?_yearText _ (endsHere_cons rfl _)]
  simp only [Option.bind_eq_bind, Option.bind_some, readMark?_self, readNumber?_two hmonth,
    readNumber?_two hday]
  exact if_pos ⟨hd, hyear⟩

lemma readMark?_of_allDigits {ds : List Char} (h : AllDigits ds) : readMark? '-' ds = none := by
  cases ds with
  | nil => rfl
  | cons c ds => exact if_neg (ne_of_isDigit (h c List.mem_cons_self)).2.1.symm

lemma readNumber?_of_allDigits {width : Nat} {ds rest : List Char} {n : Nat} (hds : AllDigits ds)
    (h : readNumber? width ds = some (n, rest)) : AllDigits rest := by
  have hstart : Text.trimStart ds = ds :=
    Text.trimStart_eq_self fun c hc => Text.isBlank_of_isDigit (hds c hc)
  simp only [readNumber?, hstart] at h
  split at h
  · cases h
  · cases h
    exact fun c hc => hds c (List.mem_of_mem_drop hc)

/-- A mere number is not a date: nothing stands where the first mark should. -/
lemma readDate?_ofInt (n : Int) : readDate? (Digits.ofInt n) = none := by
  have hmark : ∀ y r, readYear? (Digits.ofInt n) = some (y, r) → AllDigits r := by
    intro y r h
    rw [Digits.ofInt] at h
    split at h
    · have hread := readSigned?_padded 0 n.natAbs endsHere_nil
      rw [padded, Nat.zero_sub, List.replicate_zero, List.nil_append, List.append_nil] at hread
      rw [readYear?_minus, hread] at h
      cases h
      exact List.forall_mem_nil _
    · have hdigits := allDigits_ofNat n.natAbs
      rw [readYear?_digits (exists_cons_of_allDigits hdigits (ofNat_ne_nil _))] at h
      obtain ⟨⟨k, r'⟩, hread, heq'⟩ := Option.map_eq_some_iff.mp h
      cases heq'
      exact readNumber?_of_allDigits hdigits hread
  rw [readDate?]
  cases hyear : readYear? (Digits.ofInt n) with
  | none => rfl
  | some yr =>
    obtain ⟨y, r⟩ := yr
    simp only [Option.bind_eq_bind, Option.bind_some, readMark?_of_allDigits (hmark y r hyear)]
    rfl

/-! ### Times of day -/

/-- The text of a time of day in seconds. -/
def timeText (n : Nat) : List Char :=
  padded 2 (n / 3600) ++ ':' :: (padded 2 (n / 60 % 60) ++ ':' :: padded 2 (n % 60))

lemma readTime?_timeText {n : Nat} (h : n < 86400) : readTime? (timeText n) = some (n, []) := by
  have hhour : n / 3600 < 24 := by omega
  have hminute : n / 60 % 60 < 60 := Nat.mod_lt _ (by decide)
  have hsecond : n % 60 < 60 := Nat.mod_lt _ (by decide)
  have hlast := readNumber?_two (Nat.lt_trans hsecond (by decide)) []
  rw [List.append_nil] at hlast
  rw [timeText, readTime?, readNumber?_two (Nat.lt_trans hhour (by decide))]
  simp only [Option.bind_eq_bind, Option.bind_some, readMark?_self,
    readNumber?_two (Nat.lt_trans hminute (by decide : 60 < 100)), hlast]
  have hhours : n / 60 / 60 = n / 3600 := Nat.div_div_eq_div_mul n 60 60
  have hsum : 3600 * (n / 3600) + 60 * (n / 60 % 60) + n % 60 = n := by omega
  rw [if_pos (by omega), hsum]

/-- Blanks in front of a time of day are passed over. -/
lemma readTime?_blank (s : List Char) : readTime? (' ' :: s) = readTime? s := rfl

/-! ### Days and instants -/

variable {n : Int}

lemma dayText?_eq_some_iff {text : List Char} :
    dayText? n = some text ↔ YearInRange (dateOfDay n).year ∧ text = dateText (dateOfDay n) := by
  simp only [dayText?]
  split
  next h => simp [h, eq_comm]
  next h => simp [h]

lemma instantText?_eq (n : Int) : instantText? n =
    (dayText? (n / microsPerSecond / secondsPerDay)).map fun date =>
      date ++ ' ' :: timeText (n / microsPerSecond % secondsPerDay).toNat := by
  simp [instantText?, timeText]

lemma padded_not_blank (width n : Nat) : ∀ c ∈ padded width n, Text.isBlank c = false :=
  fun c hc => Text.isBlank_of_isDigit (allDigits_padded width n c hc)

lemma yearText_not_blank (y : Int) : ∀ c ∈ yearText y, Text.isBlank c = false := by
  rcases yearText_eq y with ⟨htext, -⟩ | ⟨htext, -⟩ | ⟨htext, -⟩
  · rw [htext]
    exact padded_not_blank 4 y.natAbs
  · rw [htext]
    exact List.forall_mem_cons.mpr ⟨rfl, padded_not_blank 4 y.natAbs⟩
  · rw [htext]
    exact List.forall_mem_cons.mpr ⟨rfl, padded_not_blank 4 y.natAbs⟩

lemma yearText_ne_nil (y : Int) : yearText y ≠ [] := by
  rcases yearText_eq y with ⟨htext, -⟩ | ⟨htext, -⟩ | ⟨htext, -⟩
  · rw [htext]
    exact padded_ne_nil 4 y.natAbs
  · rw [htext]
    exact List.cons_ne_nil _ _
  · rw [htext]
    exact List.cons_ne_nil _ _

lemma trim_dateText (d : Date) : Text.trim (dateText d) = dateText d := by
  have hends := Text.trim_append_eq_self (yearText_ne_nil d.year) (padded_ne_nil 2 d.day)
    (yearText_not_blank d.year) (padded_not_blank 2 d.day) ('-' :: (padded 2 d.month ++ ['-']))
  simpa [dateText] using hends

lemma trim_dateText_append (d : Date) (n : Nat) :
    Text.trim (dateText d ++ ' ' :: timeText n) = dateText d ++ ' ' :: timeText n := by
  have hends := Text.trim_append_eq_self (yearText_ne_nil d.year) (padded_ne_nil 2 (n % 60))
    (yearText_not_blank d.year) (padded_not_blank 2 (n % 60))
    ('-' :: (padded 2 d.month ++ '-' :: (padded 2 d.day ++ ' ' ::
      (padded 2 (n / 3600) ++ ':' :: (padded 2 (n / 60 % 60) ++ [':'])))))
  simpa [dateText, timeText] using hends

/-- A day that is written is read back. -/
theorem dayOfText?_dayText? {text : List Char} (h : dayText? n = some text) :
    dayOfText? (Text.trim text) = some n := by
  obtain ⟨hyear, rfl⟩ := dayText?_eq_some_iff.mp h
  have hread := readDate?_dateText (valid_dateOfDay n) hyear []
  rw [List.append_nil] at hread
  rw [trim_dateText, dayOfText?, hread]
  exact congrArg some (dayOfDate_dateOfDay n)

/-- An instant that is written is read back, but for its parts below the second. -/
theorem instantOfText?_instantText? {text : List Char} (h : instantText? n = some text) :
    instantOfText? (Text.trim text) = some (n / microsPerSecond * microsPerSecond) := by
  rw [instantText?_eq] at h
  obtain ⟨date, hdate, rfl⟩ := Option.map_eq_some_iff.mp h
  obtain ⟨hyear, rfl⟩ := dayText?_eq_some_iff.mp hdate
  have hnonneg := Int.emod_nonneg (n / microsPerSecond) (b := secondsPerDay) (by decide)
  have hlt := Int.emod_lt_of_pos (n / microsPerSecond) (b := secondsPerDay) (by decide)
  have htime : (n / microsPerSecond % secondsPerDay).toNat < 86400 := by
    rw [secondsPerDay] at *
    omega
  rw [trim_dateText_append, instantOfText?, readDate?_dateText (valid_dateOfDay _) hyear]
  simp only [Option.bind_eq_bind, Option.bind_some, readTime?_blank, readTime?_timeText htime,
    dayOfDate_dateOfDay, if_true, Int.toNat_of_nonneg hnonneg]
  rw [Int.ediv_mul_add_emod]

/-- A mere number is not read as a day. -/
theorem dayOfText?_ofInt (n : Int) : dayOfText? (Text.trim (Digits.ofInt n)) = none := by
  have hblank : ∀ c ∈ Digits.ofInt n, Text.isBlank c = false := by
    have hdigits := fun c hc => Text.isBlank_of_isDigit (allDigits_ofNat n.natAbs c hc)
    rw [Digits.ofInt]
    split
    · exact List.forall_mem_cons.mpr ⟨rfl, hdigits⟩
    · exact hdigits
  rw [Text.trim_eq_self hblank, dayOfText?, readDate?_ofInt]

end Calendar

end Confluence
