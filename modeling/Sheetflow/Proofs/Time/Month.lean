import Mathlib.Data.List.Basic
import Sheetflow.Service.Quota
import Sheetflow.Time.Calendar

/-!
# Months

The text of a month tells its year and its number (`Date.eq_of_monthText`), and days are
numbered so that those of one month stand together (`Date.SameMonth.between`) and are not many
(`Date.SameMonth.lt`).  So a month goes on without a break (`DateTime.month_between`), and what is kept
for forty days from some time in a month is kept until the month is over
(`DateTime.month_ne_of_lifetime`).
-/

namespace Sheetflow

theorem ofDigitChars_padded (width n : Nat) : Nat.ofDigitChars 10 (padded width n).toList 0 = n := by
  unfold padded
  rw [String.toList_ofList, Nat.ofDigitChars_append, Nat.ofDigitChars_replicate_zero, Nat.mul_zero,
    Nat.ofDigitChars_ten_toDigits]

theorem padded_injective {width m n : Nat} (h : padded width m = padded width n) : m = n := by
  rw [← ofDigitChars_padded width m, h, ofDigitChars_padded]

theorem isDigit_of_mem_padded {width n : Nat} {c : Char} (h : c ∈ (padded width n).toList) :
    c.isDigit = true := by
  unfold padded at h
  rw [String.toList_ofList, List.mem_append] at h
  obtain h | h := h
  · rw [(List.mem_replicate.mp h).2]
    rfl
  · exact Nat.isDigit_of_mem_toDigits (by omega) (by omega) h

namespace Date

/-- The text of a month tells year and month. -/
theorem eq_of_monthText {d e : Date} (h : d.monthText = e.monthText) :
    d.year = e.year ∧ d.month = e.month := by
  have hnot (width n : Nat) : '-' ∉ (padded width n).toList := fun hm => by
    have := isDigit_of_mem_padded hm
    exact absurd this (by decide)
  have hlist : (padded 4 d.year).toList ++ '-' :: (padded 2 d.month).toList =
      (padded 4 e.year).toList ++ '-' :: (padded 2 e.month).toList := by
    have := congrArg String.toList h
    simpa [monthText, String.toList_append] using this
  obtain ⟨hyear, -, hmonth⟩ :=
    (List.append_cons_inj_of_notMem (hnot 4 d.year) (hnot 2 d.month)).mp hlist
  exact ⟨padded_injective (String.toList_injective hyear),
    padded_injective (String.toList_injective hmonth)⟩

/-! ### The parts of a day -/

/-- The number of four hundred years since March of the year zero. -/
def era (n : Int) : Int := Int.fdiv (n + 719468) 146097

theorem era_eq (n : Int) : era n = (n + 719468) / 146097 := Int.fdiv_eq_ediv_of_nonneg _ (by decide)

def dayOfEra (n : Int) : Nat := (n + 719468 - era n * 146097).toNat

def yearOfEra (doe : Nat) : Nat := (doe - doe / 1460 + doe / 36524 - doe / 146096) / 365

/-- The first day of a year of an era. -/
def startOfYear (yoe : Nat) : Nat := 365 * yoe + yoe / 4 - yoe / 100

/-- The number of the month in a year that starts in March. -/
def monthOfYear (doy : Nat) : Nat := (5 * doy + 2) / 153

/-- The day in such a year. -/
def dayOfYear (n : Int) : Nat := dayOfEra n - startOfYear (yearOfEra (dayOfEra n))

theorem ofDays_month (n : Int) : (ofDays n).month =
    if monthOfYear (dayOfYear n) < 10 then monthOfYear (dayOfYear n) + 3
    else monthOfYear (dayOfYear n) - 9 := rfl

theorem ofDays_year (n : Int) : (ofDays n).year =
    (era n * 400 + yearOfEra (dayOfEra n) + (if (ofDays n).month ≤ 2 then 1 else 0)).toNat :=
  rfl

theorem dayOfEra_eq (n : Int) : (dayOfEra n : Int) = n + 719468 - era n * 146097 := by
  rw [dayOfEra, era_eq]
  omega

theorem dayOfEra_le (n : Int) : dayOfEra n ≤ 146096 := by
  have := dayOfEra_eq n
  rw [era_eq] at this
  omega

/-- The year of an era in which a day lies has begun, and it has not ended. -/
theorem yearOfEra_bounds {doe : Nat} (h : doe ≤ 146096) : yearOfEra doe ≤ 399 ∧
    startOfYear (yearOfEra doe) ≤ doe ∧ doe ≤ startOfYear (yearOfEra doe) + 365 := by
  by_cases hlast : doe = 146096
  · subst hlast
    decide
  · -- the quotients are compared one at a time: centuries, then leap years
    have hera : doe / 146096 = 0 := by omega
    have hcentury : doe / 36524 ≤ 3 := by omega
    have hyear : yearOfEra doe = (doe - doe / 1460 + doe / 36524) / 365 := by
      rw [yearOfEra, hera, Nat.sub_zero]
    generalize yearOfEra doe = yoe at hyear
    have hlow : 365 * yoe ≤ doe - doe / 1460 + doe / 36524 := by omega
    have hhigh : doe - doe / 1460 + doe / 36524 ≤ 365 * yoe + 364 := by omega
    clear hyear
    have hcenturies : yoe / 100 = doe / 36524 := by omega
    have hleap : yoe / 4 ≤ doe / 1460 := by omega
    have hleap' : doe / 1460 ≤ yoe / 4 + 1 := by omega
    unfold startOfYear
    omega

theorem yearOfEra_mono {d e : Nat} (h : d ≤ e) (he : e ≤ 146096) : yearOfEra d ≤ yearOfEra e := by
  unfold yearOfEra
  refine Nat.div_le_div_right ?_
  omega

theorem dayOfYear_eq (n : Int) :
    dayOfEra n = startOfYear (yearOfEra (dayOfEra n)) + dayOfYear n ∧ dayOfYear n ≤ 365 := by
  have := yearOfEra_bounds (dayOfEra_le n)
  unfold dayOfYear
  omega

theorem monthOfYear_le (n : Int) : monthOfYear (dayOfYear n) ≤ 11 := by
  have := (dayOfYear_eq n).2
  unfold monthOfYear
  omega

/-- Two days are in the same month if they are so by their parts. -/
structure SameMonth (m n : Int) : Prop where
  sameEra : era m = era n
  sameYear : yearOfEra (dayOfEra m) = yearOfEra (dayOfEra n)
  sameMonth : monthOfYear (dayOfYear m) = monthOfYear (dayOfYear n)

/-- Year and number tell a month, where years count from one. -/
theorem sameMonth_of_eq {m n : Int} (hpos : 0 < (ofDays n).year)
    (hyear : (ofDays m).year = (ofDays n).year) (hmonth : (ofDays m).month = (ofDays n).month) :
    SameMonth m n := by
  have hm := yearOfEra_bounds (dayOfEra_le m)
  have hn := yearOfEra_bounds (dayOfEra_le n)
  rw [ofDays_year n] at hpos
  rw [ofDays_year, ofDays_year, hmonth] at hyear
  have hsum : era m * 400 + yearOfEra (dayOfEra m) = era n * 400 + yearOfEra (dayOfEra n) := by omega
  rw [ofDays_month, ofDays_month] at hmonth
  have hmdoy := monthOfYear_le m
  have hndoy := monthOfYear_le n
  refine ⟨by omega, by omega, ?_⟩
  split at hmonth <;> split at hmonth <;> omega

theorem SameMonth.eq {m n : Int} (h : SameMonth m n) :
    (ofDays m).year = (ofDays n).year ∧ (ofDays m).month = (ofDays n).month := by
  have hmonth : (ofDays m).month = (ofDays n).month := by
    rw [ofDays_month, ofDays_month, h.sameMonth]
  exact ⟨by rw [ofDays_year, ofDays_year, hmonth, h.sameEra, h.sameYear], hmonth⟩

/-- Days of the same month are less than a month apart. -/
theorem SameMonth.lt {m n : Int} (h : SameMonth m n) : n < m + 31 := by
  have hm := dayOfEra_eq m
  have hn := dayOfEra_eq n
  have hmdoy := (dayOfYear_eq m).1
  have hndoy := (dayOfYear_eq n).1
  have hmonth := h.sameMonth
  have hera := h.sameEra
  rw [h.sameYear] at hmdoy
  unfold monthOfYear at hmonth
  omega

/-- A day between two days of a month is in the month. -/
theorem SameMonth.between {l m n : Int} (h : SameMonth l n) (hlm : l ≤ m) (hmn : m ≤ n) :
    SameMonth m n := by
  have hl := dayOfEra_eq l
  have hm := dayOfEra_eq m
  have hn := dayOfEra_eq n
  have hera : era m = era n := by
    have := h.sameEra
    rw [era_eq, era_eq] at this ⊢
    omega
  have hyear : yearOfEra (dayOfEra m) = yearOfEra (dayOfEra n) := by
    have hlera := h.sameEra
    have hlm' : yearOfEra (dayOfEra l) ≤ yearOfEra (dayOfEra m) :=
      yearOfEra_mono (by omega) (dayOfEra_le m)
    have hmn' : yearOfEra (dayOfEra m) ≤ yearOfEra (dayOfEra n) :=
      yearOfEra_mono (by omega) (dayOfEra_le n)
    have := h.sameYear
    omega
  refine ⟨hera, hyear, ?_⟩
  have hldoy := (dayOfYear_eq l).1
  have hmdoy := (dayOfYear_eq m).1
  have hndoy := (dayOfYear_eq n).1
  have hlera := h.sameEra
  have hmonth := h.sameMonth
  rw [h.sameYear] at hldoy
  rw [hyear] at hmdoy
  unfold monthOfYear at hmonth ⊢
  omega

theorem year_pos {n : Int} (h : -719162 ≤ n) : 0 < (ofDays n).year := by
  have hn := dayOfEra_eq n
  have hdoe := dayOfEra_le n
  have hera : 0 ≤ era n := by
    rw [era_eq]
    omega
  rw [ofDays_year]
  by_cases hfirst : era n = 0 ∧ yearOfEra (dayOfEra n) = 0
  · -- the year zero starts in March, so its last months are those of the year one
    have hdoy := dayOfYear_eq n
    rw [hfirst.2] at hdoy
    have hlate : 306 ≤ dayOfYear n := by
      have : startOfYear 0 = 0 := rfl
      omega
    have hmonth : (ofDays n).month ≤ 2 := by
      rw [ofDays_month]
      unfold monthOfYear
      split <;> omega
    rw [if_pos hmonth]
    omega
  · omega

end Date

namespace DateTime

/-- The first moment of the year one. -/
def first : Instant := toInstant ⟨⟨1, 1, 1⟩, 0, 0, 0, 0, some 0⟩

/-- The month of a moment, as counts are kept for it. -/
def month (i : Instant) : String := (ofInstant i).date.monthText

theorem date_ofInstant (i : Instant) : (ofInstant i).date = .ofDays (i / 1000000 / 86400) := by
  show Date.ofDays (Int.fdiv (Int.fdiv i 1000000) 86400) = _
  rw [Int.fdiv_eq_ediv_of_nonneg _ (by decide), Int.fdiv_eq_ediv_of_nonneg _ (by decide)]

theorem sameMonth_of_month_eq {i t : Int} (hfirst : first ≤ t) (h : month i = month t) :
    Date.SameMonth (i / 1000000 / 86400) (t / 1000000 / 86400) := by
  obtain ⟨hyear, hmonth⟩ := Date.eq_of_monthText h
  have hday (t : Int) (h : -62135596800000000 ≤ t) : -719162 ≤ t / 1000000 / 86400 := by omega
  rw [date_ofInstant, date_ofInstant] at hyear hmonth
  exact Date.sameMonth_of_eq (Date.year_pos (hday t hfirst)) hyear hmonth

/-- **A month goes on without a break.** -/
theorem month_between {i j t : Int} (hfirst : first ≤ i) (hij : i ≤ j) (hjt : j ≤ t)
    (h : month i = month t) : month j = month t := by
  have hsame := (sameMonth_of_month_eq (Int.le_trans hfirst (Int.le_trans hij hjt)) h).between
    (m := j / 1000000 / 86400) (by omega) (by omega)
  obtain ⟨hyear, hmonth⟩ := hsame.eq
  rw [month, month, date_ofInstant, date_ofInstant, Date.monthText, Date.monthText, hyear, hmonth]

/-- **A count that lapses was kept until its month was over.** -/
theorem month_ne_of_lifetime {i t : Int} (hfirst : first ≤ t)
    (h : i + Quota.monthlyLifetime * microsPerSecond ≤ t) : month i ≠ month t := by
  intro hmonth
  have hlater (i t : Int) (h : i + 3456000000000 ≤ t) :
      i / 1000000 / 86400 + 40 ≤ t / 1000000 / 86400 := by omega
  have hsame := (sameMonth_of_month_eq hfirst hmonth).lt
  have := hlater i t h
  omega

end DateTime

end Sheetflow
