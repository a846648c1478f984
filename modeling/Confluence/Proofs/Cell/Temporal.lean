import Confluence.Proofs.Calendar.Text
import Confluence.Proofs.Cell.Coerce

/-!
# Dates and timestamps as text

A date or a timestamp is read as text and that text is read back. A date comes back as it was if
its year can be written, and otherwise its text is the number of the day, which is no date. A
timestamp comes back without its parts below the second.
-/

namespace Confluence.Cell

open Calendar

/-- The text that a cell is read as. -/
lemma coerce_text {c : Cell} (hc : c ≠ .null) :
    c.coerce .text = .ok (.text (String.ofList c.display)) :=
  (coerce_eq_ok_iff hc).mpr rfl

lemma coerce_text_date {s : String} {n : Int} {d : Signed 32} (hd : d.val = n)
    (h : dayOfText? (Text.trim s.toList) = some n) :
    (Cell.text s).coerce .date = .ok (.date d) := by
  have hnull : Cell.text s ≠ .null := Cell.noConfusion
  rw [coerce_eq_ok_iff hnull, convert?, readDate?, h, Option.bind_some,
    Signed.ofInt?_eq_some_iff.mpr hd, Option.map_some]

lemma coerce_text_timestamp {s : String} {n : Int} {t : Signed 64} (ht : t.val = n)
    (h : instantOfText? (Text.trim s.toList) = some n) :
    (Cell.text s).coerce .timestamp = .ok (.timestamp t) := by
  have hnull : Cell.text s ≠ .null := Cell.noConfusion
  rw [coerce_eq_ok_iff hnull, convert?, readTimestamp?, h, Option.bind_some,
    Signed.ofInt?_eq_some_iff.mpr ht, Option.map_some]

/-- An instant that can be written is far from the bounds of its width, so it can be rounded. -/
lemma exists_wholeSeconds {t : Signed 64}
    (h : YearInRange (dateOfDay (t.val / microsPerSecond / secondsPerDay)).year) :
    ∃ r : Signed 64, r.val = t.val / microsPerSecond * microsPerSecond := by
  obtain ⟨hfirst, -⟩ := yearInRange_dateOfDay_iff.mp h
  have hday : newYear (-262143) = -96465292 := by decide
  have hbound : Signed.bound 64 = 9223372036854775808 := by decide
  obtain ⟨-, hlt⟩ := t.fits
  rw [hbound] at hlt
  rw [hday] at hfirst
  have hfits : Signed.Fits 64 (t.val / microsPerSecond * microsPerSecond) := by
    rw [Signed.Fits, hbound]
    simp only [microsPerSecond, secondsPerDay] at *
    omega
  exact ⟨⟨_, hfits⟩, rfl⟩

/-- Dates and timestamps whose year can be written survive their text, but for the parts of a
timestamp below the second, which are rounded down on both sides of the epoch. The text of a date
is its date in the Gregorian calendar. A date whose year cannot be written is lost. -/
theorem coerce_temporal_through_text :
    IsGregorian dateOfDay ∧
      (∀ d : Signed 32, YearInRange (dateOfDay d.val).year → ∃ s : String,
        (Cell.date d).coerce .text = .ok (.text s) ∧ s.toList = dateText (dateOfDay d.val) ∧
          (Cell.text s).coerce .date = .ok (.date d)) ∧
      (∀ d : Signed 32, ¬ YearInRange (dateOfDay d.val).year → ∃ s : String,
        (Cell.date d).coerce .text = .ok (.text s) ∧
          (Cell.text s).coerce .date =
            .error (.typeMismatch SqlType.date.name (Cell.text s).typeName)) ∧
      ∀ t : Signed 64, YearInRange (dateOfDay (t.val / microsPerSecond / secondsPerDay)).year →
        ∃ (s : String) (r : Signed 64), (Cell.timestamp t).coerce .text = .ok (.text s) ∧
          (Cell.text s).coerce .timestamp = .ok (.timestamp r) ∧
          r.val = t.val / microsPerSecond * microsPerSecond := by
  refine ⟨isGregorian_dateOfDay, ?_, ?_, ?_⟩
  · intro d hyear
    have htext : dayText? d.val = some (dateText (dateOfDay d.val)) :=
      dayText?_eq_some_iff.mpr ⟨hyear, rfl⟩
    have hdisplay : (Cell.date d).display = dateText (dateOfDay d.val) := by
      rw [display, htext, Option.getD_some]
    refine ⟨_, coerce_text Cell.noConfusion, ?_, ?_⟩
    · rw [hdisplay, String.toList_ofList]
    · apply coerce_text_date rfl
      rw [hdisplay, String.toList_ofList]
      exact dayOfText?_dayText? htext
  · intro d hyear
    have htext : dayText? d.val = none := if_neg hyear
    have hdisplay : (Cell.date d).display = Digits.ofInt d.val := by
      rw [display, htext, Option.getD_none]
    refine ⟨_, coerce_text Cell.noConfusion, ?_⟩
    rw [hdisplay, coerce, if_neg (by simp [isNull])]
    simp only [convert?, readDate?, String.toList_ofList, dayOfText?_ofInt, Option.bind_none,
      Option.map_none]
  · intro t hyear
    obtain ⟨r, hr⟩ := exists_wholeSeconds hyear
    have hdate := dayText?_eq_some_iff.mpr ⟨hyear, rfl⟩
    have htext := instantText?_eq t.val
    rw [hdate, Option.map_some] at htext
    refine ⟨_, r, coerce_text Cell.noConfusion, ?_, hr⟩
    apply coerce_text_timestamp hr
    rw [display, htext, Option.getD_some, String.toList_ofList]
    exact instantOfText?_instantText? htext

/-- The first day of the year 10000, the least of all dates, and the instant before the epoch. -/
theorem coerce_temporal_at_edges :
    (∃ s : String, (Cell.date ⟨2932897, by decide⟩).coerce .text = .ok (.text s) ∧
      s.toList = "+10000-01-01".toList ∧
      (Cell.text s).coerce .date = .ok (.date ⟨2932897, by decide⟩)) ∧
    (∃ s : String, (Cell.date ⟨-2147483648, by decide⟩).coerce .text = .ok (.text s) ∧
      (Cell.text s).coerce .date =
        .error (.typeMismatch SqlType.date.name (Cell.text s).typeName)) ∧
    ∃ (s : String) (r : Signed 64), (Cell.timestamp ⟨-1, by decide⟩).coerce .text = .ok (.text s) ∧
      (Cell.text s).coerce .timestamp = .ok (.timestamp r) ∧ r.val = -1000000 := by
  obtain ⟨-, hdate, hlost, htimestamp⟩ := coerce_temporal_through_text
  refine ⟨?_, hlost ⟨-2147483648, by decide⟩ (by decide), htimestamp ⟨-1, by decide⟩ (by decide)⟩
  obtain ⟨s, htext, hs, hread⟩ := hdate ⟨2932897, by decide⟩ (by decide)
  exact ⟨s, htext, by rw [hs]; decide, hread⟩

end Confluence.Cell
