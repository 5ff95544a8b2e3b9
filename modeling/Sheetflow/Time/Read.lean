import Sheetflow.Number.Double
import Sheetflow.Text.Digit
import Sheetflow.Time.Calendar

/-!
# Reading dates and times

A date and time are written with hyphens and colons, with a letter, a blank or an underscore between
them. The seconds, their fraction and the offset from UTC may be missing, and so may the whole time:
a date alone stands for its first moment. A number is a count of seconds since the start of 1970, or of
milliseconds if it is too large for seconds.
-/

namespace Sheetflow

/-- Why a text is no date. -/
inductive DateFault where
  | tooShort
  | extraCharacters
  | separator
  | yearDigit
  | monthDigit
  | dayDigit
  | monthRange
  | dayRange
deriving DecidableEq, Repr

def DateFault.message : DateFault → String
  | .tooShort => "input is too short"
  | .extraCharacters => "unexpected extra characters at the end of the input"
  | .separator => "invalid date separator, expected \x60-\x60"
  | .yearDigit => "invalid character in year"
  | .monthDigit => "invalid character in month"
  | .dayDigit => "invalid character in day"
  | .monthRange => "month value is outside expected range of 1-12"
  | .dayRange => "day value is outside expected range"

/-- Why a number is no moment. -/
inductive InstantFault where
  | tooSmall
  | tooLarge
  | notANumber
deriving DecidableEq, Repr

def InstantFault.message : InstantFault → String
  | .tooSmall => "dates before 0000 are not supported as unix timestamps"
  | .tooLarge => "dates after 9999 are not supported as unix timestamps"
  | .notANumber => "NaN values not permitted"

namespace DateTime

/-- A numeral of exactly `n` ASCII digits at the head of a text, and what follows it. -/
def digits? : Nat → List Char → Option (Nat × List Char)
  | 0, cs => some (0, cs)
  | n + 1, c :: cs =>
    if Text.isAsciiDigit c then
      (digits? n cs).map fun (v, rest) => ((c.toNat - 48) * Nat.pow 10 n + v, rest)
    else none
  | _ + 1, [] => none

/-- The date at the head of a text of which at least ten characters are left. -/
def leadingDate (cs : List Char) : Except DateFault (Date × List Char) :=
  match digits? 4 cs with
  | none => .error .yearDigit
  | some (year, '-' :: cs) =>
    match digits? 2 cs with
    | none => .error .monthDigit
    | some (month, '-' :: cs) =>
      match digits? 2 cs with
      | none => .error .dayDigit
      | some (day, cs) =>
        if month < 1 || 12 < month then .error .monthRange
        else if day < 1 || Date.daysInMonth year month < day then .error .dayRange
        else .ok (⟨year, month, day⟩, cs)
    | some _ => .error .separator
  | some _ => .error .separator

/-- The fraction of a second, cut to microseconds. -/
def microseconds (ds : List Char) : Nat :=
  let six := ds.take 6
  Text.numeralValue six * Nat.pow 10 (6 - six.length)

/-- A time of day without an offset. -/
structure Clock where
  hour : Nat
  minute : Nat
  second : Nat
  micro : Nat

/-- The time of day at the head of a text. -/
def clock? (cs : List Char) : Option (Clock × List Char) :=
  match digits? 2 cs with
  | some (hour, ':' :: cs) =>
    match digits? 2 cs with
    | some (minute, cs) =>
      if 23 < hour || 59 < minute then none
      else match cs with
        | ':' :: cs =>
          match digits? 2 cs with
          | some (second, cs) =>
            if 59 < second then none
            else match cs with
              | c :: rest =>
                if c == '.' || c == ',' then
                  let ds := rest.takeWhile Text.isAsciiDigit
                  if ds.isEmpty then none
                  else some (⟨hour, minute, second, microseconds ds⟩, rest.dropWhile Text.isAsciiDigit)
                else some (⟨hour, minute, second, 0⟩, cs)
              | [] => some (⟨hour, minute, second, 0⟩, [])
          | none => none
        | cs => some (⟨hour, minute, 0, 0⟩, cs)
    | none => none
  | _ => none

/-- Hours and minutes of an offset, in seconds; nothing may follow. -/
def offsetSize? (cs : List Char) : Option Int :=
  match digits? 2 cs with
  | some (hours, cs) =>
    let minutes := match cs with
      | ':' :: cs => digits? 2 cs
      | cs => digits? 2 cs
    match minutes with
    | some (minutes, []) =>
      if minutes < 60 && hours < 24 then some (hours * 3600 + minutes * 60) else none
    | _ => none
  | none => none

/-- The offset that a whole text stands for: none, UTC, or hours and minutes with a sign. -/
def offset? : List Char → Option (Option Int)
  | [] => some none
  | ['Z'] => some (some 0)
  | ['z'] => some (some 0)
  | '+' :: cs => (offsetSize? cs).map some
  | '-' :: cs => (offsetSize? cs).map fun s => some (-s)
  | '\u2212' :: cs => (offsetSize? cs).map fun s => some (-s)
  | _ => none

/-- May the character stand between date and time? -/
def isSeparator (c : Char) : Bool := c == 'T' || c == 't' || c == ' ' || c == '_'

/-- A date with a time. -/
def withTime? (cs : List Char) : Option DateTime :=
  match leadingDate cs with
  | .ok (date, c :: rest) =>
    if isSeparator c then
      match clock? rest with
      | some (t, rest) =>
        (offset? rest).map fun offset => ⟨date, t.hour, t.minute, t.second, t.micro, offset⟩
      | none => none
    else none
  | _ => none

/-- A date alone, as its first moment. -/
def dateOnly (cs : List Char) : Except DateFault DateTime :=
  if cs.foldl (fun n c => n + c.utf8Size) 0 < 10 then .error .tooShort
  else match leadingDate cs with
    | .error e => .error e
    | .ok (date, []) => .ok ⟨date, 0, 0, 0, 0, none⟩
    | .ok _ => .error .extraCharacters

/-- The largest number that counts seconds. -/
def secondsLimit : Int := 20000000000

/-- The moment that a count of microseconds stands for, if it has a year of at most four digits. -/
def ofMicros (i : Instant) : Except InstantFault DateTime :=
  let seconds := Int.fdiv i microsPerSecond
  if seconds < -62167219200 then .error .tooSmall
  else if 253402300799 < seconds then .error .tooLarge
  else .ok (ofInstant i)

/-- The moment a whole number stands for. -/
def ofNumber (n : Int) : Except InstantFault DateTime :=
  ofMicros (if n.natAbs ≤ secondsLimit.toNat then n * microsPerSecond else n * 1000)

/-- The moment a floating-point number stands for, to the microsecond. -/
def ofDouble : Double → Except InstantFault DateTime
  | .nan => .error .notANumber
  | .infinite negative => .error (if negative then .tooSmall else .tooLarge)
  | .finite negative m e =>
    let (n, d) := Double.ratio m e
    let unit : Nat := if n ≤ d * secondsLimit.toNat then 1000000 else 1000
    let micros : Int := roundHalfEven (n * unit) d
    ofMicros (if negative then -micros else micros)

/-- A number written as a text: a sign, digits, and perhaps a point and digits. -/
def ofNumeral? (cs : List Char) : Option (Except InstantFault DateTime) :=
  let (negative, body) := match cs with
    | '-' :: rest => (true, rest)
    | '+' :: rest => (false, rest)
    | _ => (false, cs)
  let whole := body.takeWhile Text.isAsciiDigit
  if whole.isEmpty then none
  else match body.dropWhile Text.isAsciiDigit with
    | [] =>
      let n : Int := Text.numeralValue whole
      some (ofNumber (if negative then -n else n))
    | '.' :: frac =>
      if frac.isEmpty || !frac.all Text.isAsciiDigit then none
      else some (ofDouble (.ofDecimal negative (Text.numeralValue (whole ++ frac)) (-frac.length)))
    | _ => none

/-- Read a text. -/
def read (s : String) : Except DateFault DateTime :=
  let cs := s.toList
  match withTime? cs with
  | some t => .ok t
  | none =>
    match ofNumeral? cs with
    | some (.ok t) => .ok t
    | _ => dateOnly cs

end DateTime

end Sheetflow
