import Sheetflow.Proofs.Time.Month

/-!
# Moments read back from dates

A day is found again from its year, month and day (`Date.toDays_ofDays`), and so a moment is found
again from its date and time of day (`DateTime.toInstant_ofInstant`), from the first moment of the
year one on.  So times that were read off a clock are in the order in which they were read.
-/

namespace Sheetflow

namespace Date

/-- The months of a year that starts in March end on the days they should. -/
theorem startOfMonth_le (doy : Nat) : (153 * monthOfYear doy + 2) / 5 ≤ doy := by
  unfold monthOfYear
  omega

theorem ofDays_day (n : Int) : (ofDays n).day =
    dayOfYear n - (153 * monthOfYear (dayOfYear n) + 2) / 5 + 1 := rfl

/-- The year that starts in March, in which a day lies. -/
def marchYear (n : Int) : Int := era n * 400 + yearOfEra (dayOfEra n)

theorem cast_year {n : Int} (h : -719162 ≤ n) :
    ((ofDays n).year : Int) = marchYear n + if (ofDays n).month ≤ 2 then 1 else 0 := by
  have hpos := year_pos h
  rw [ofDays_year] at hpos ⊢
  unfold marchYear
  split at hpos <;> split <;> omega

/-- The days before a year that starts in March. -/
theorem daysBefore_marchYear (n : Int) :
    365 * marchYear n + Int.fdiv (marchYear n) 4 - Int.fdiv (marchYear n) 100 +
      Int.fdiv (marchYear n) 400 = era n * 146097 + startOfYear (yearOfEra (dayOfEra n)) := by
  have hyear := (yearOfEra_bounds (dayOfEra_le n)).1
  rw [Int.fdiv_eq_ediv_of_nonneg _ (by decide), Int.fdiv_eq_ediv_of_nonneg _ (by decide),
    Int.fdiv_eq_ediv_of_nonneg _ (by decide)]
  unfold marchYear startOfYear
  generalize yearOfEra (dayOfEra n) = yoe at hyear ⊢
  omega

/-- **A day is found again from its date.** -/
theorem toDays_ofDays {n : Int} (h : -719162 ≤ n) : (ofDays n).toDays = n := by
  have hdoy := (dayOfYear_eq n).1
  have hdoe := dayOfEra_eq n
  have hstart := startOfMonth_le (dayOfYear n)
  have hmonths := monthOfYear_le n
  have hyear : (if (ofDays n).month ≤ 2 then ((ofDays n).year : Int) - 1 else (ofDays n).year) =
      marchYear n := by
    rw [cast_year h]
    split <;> omega
  have hmonth : (if (ofDays n).month ≤ 2 then ((ofDays n).month : Int) + 9 else (ofDays n).month - 3) =
      monthOfYear (dayOfYear n) := by
    rw [ofDays_month]
    split <;> split <;> omega
  unfold toDays
  simp only [hyear, hmonth, daysBefore_marchYear, ofDays_day]
  omega

end Date

namespace DateTime

/-- The last moment of the year 9999. -/
def last : Instant := toInstant ⟨⟨9999, 12, 31⟩, 23, 59, 59, 999999, some 0⟩

/-- A moment with a date of four digits. -/
def InRange (i : Instant) : Prop := first ≤ i ∧ i ≤ last

/-- Days, hours, minutes, seconds and microseconds make up the whole. -/
theorem sum_parts (i : Int) :
    let s := i / 1000000
    let rest := (s - s / 86400 * 86400).toNat
    (s / 86400 * 86400 + ↑(rest / 3600) * 3600 + ↑(rest / 60 % 60) * 60 + ↑(rest % 60) - 0) * 1000000 +
      ↑(i - s * 1000000).toNat = i := by
  omega

/-- **A moment is found again from its date and time.** -/
theorem toInstant_ofInstant {i : Instant} (h : first ≤ i) : (ofInstant i).toInstant = i := by
  have hday (i : Int) (h : -62135596800000000 ≤ i) : -719162 ≤ i / 1000000 / 86400 := by omega
  have hdate : (ofInstant i).date.toDays = i / 1000000 / 86400 := by
    rw [date_ofInstant, Date.toDays_ofDays (hday i h)]
  unfold toInstant
  rw [hdate]
  unfold ofInstant
  simp only [microsPerSecond, secondsPerDay, Option.getD_some]
  rw [Int.fdiv_eq_ediv_of_nonneg _ (by decide), Int.fdiv_eq_ediv_of_nonneg _ (by decide)]
  exact sum_parts i

end DateTime

end Sheetflow
