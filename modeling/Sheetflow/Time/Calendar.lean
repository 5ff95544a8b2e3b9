/-!
# Dates and times of day

Dates of the Gregorian calendar, times to the microsecond, and their distance from the first moment
of 1970 in UTC. Months are counted from March when days are numbered, so that the leap day is the last
day of a year.
-/

namespace Sheetflow

structure Date where
  year : Nat
  month : Nat
  day : Nat
deriving DecidableEq, Repr, Inhabited

/-- A date and a time of day. The offset from UTC is in seconds; without one the place is unknown. -/
structure DateTime where
  date : Date
  hour : Nat
  minute : Nat
  second : Nat
  micro : Nat
  offset : Option Int
deriving DecidableEq, Repr, Inhabited

/-- Microseconds since the first moment of 1970 in UTC. -/
abbrev Instant := Int

def microsPerSecond : Int := 1000000

def secondsPerDay : Int := 86400

namespace Date

def isLeap (year : Nat) : Bool := year % 4 == 0 && (year % 100 != 0 || year % 400 == 0)

def daysInMonth (year month : Nat) : Nat :=
  if month = 2 then (if isLeap year then 29 else 28)
  else if month = 4 || month = 6 || month = 9 || month = 11 then 30
  else 31

/-- Is there such a day, in a year with at most four digits? -/
def isValid (d : Date) : Bool :=
  1 ≤ d.year && d.year ≤ 9999 && 1 ≤ d.month && d.month ≤ 12 && 1 ≤ d.day &&
    d.day ≤ daysInMonth d.year d.month

/-- Days since the first of January 1970. -/
def toDays (d : Date) : Int :=
  let y : Int := if d.month ≤ 2 then d.year - 1 else d.year
  let m : Int := if d.month ≤ 2 then d.month + 9 else d.month - 3
  365 * y + Int.fdiv y 4 - Int.fdiv y 100 + Int.fdiv y 400 + (153 * m + 2) / 5 + d.day - 1 - 719468

/-- The date a number of days after the first of January 1970. -/
def ofDays (n : Int) : Date :=
  let z := n + 719468
  let era := Int.fdiv z 146097
  let doe := (z - era * 146097).toNat
  let yoe := (doe - doe / 1460 + doe / 36524 - doe / 146096) / 365
  let doy := doe - (365 * yoe + yoe / 4 - yoe / 100)
  let mp := (5 * doy + 2) / 153
  let day := doy - (153 * mp + 2) / 5 + 1
  let month := if mp < 10 then mp + 3 else mp - 9
  let year := era * 400 + yoe + (if month ≤ 2 then 1 else 0)
  ⟨year.toNat, month, day⟩

end Date

/-- `n` in decimal with at least `width` digits. -/
def padded (width n : Nat) : String :=
  let ds := Nat.toDigits 10 n
  String.ofList (List.replicate (width - ds.length) '0' ++ ds)

namespace Date

/-- Year, month and day with hyphens between them. -/
def text (d : Date) : String := padded 4 d.year ++ "-" ++ padded 2 d.month ++ "-" ++ padded 2 d.day

/-- The year and month alone. -/
def monthText (d : Date) : String := padded 4 d.year ++ "-" ++ padded 2 d.month

end Date

/-- An offset from UTC as hours and minutes, and seconds if there are any. -/
def offsetText (seconds : Int) : String :=
  let n := seconds.natAbs
  (if seconds < 0 then "-" else "+") ++ padded 2 (n / 3600) ++ ":" ++ padded 2 (n / 60 % 60) ++
    (if n % 60 = 0 then "" else ":" ++ padded 2 (n % 60))

namespace DateTime

/-- Hours, minutes and seconds, and microseconds if there are any. -/
def clockText (t : DateTime) : String :=
  padded 2 t.hour ++ ":" ++ padded 2 t.minute ++ ":" ++ padded 2 t.second ++
    (if t.micro = 0 then "" else "." ++ padded 6 t.micro)

/-- Date, `T`, time and offset. -/
def text (t : DateTime) : String :=
  t.date.text ++ "T" ++ t.clockText ++
    (match t.offset with
      | none => ""
      | some s => offsetText s)

/-- The same with `Z` for UTC, as stored documents have it. -/
def storedText (t : DateTime) : String :=
  match t.offset with
  | some 0 => t.date.text ++ "T" ++ t.clockText ++ "Z"
  | _ => t.text

/-- The moment meant; without an offset, as if in UTC. -/
def toInstant (t : DateTime) : Instant :=
  let seconds := t.date.toDays * secondsPerDay + t.hour * 3600 + t.minute * 60 + t.second -
    t.offset.getD 0
  seconds * microsPerSecond + t.micro

/-- A moment as date and time in UTC. -/
def ofInstant (i : Instant) : DateTime :=
  let seconds := Int.fdiv i microsPerSecond
  let days := Int.fdiv seconds secondsPerDay
  let rest := (seconds - days * secondsPerDay).toNat
  ⟨.ofDays days, rest / 3600, rest / 60 % 60, rest % 60, (i - seconds * microsPerSecond).toNat, some 0⟩

end DateTime

end Sheetflow
