import Sheetflow.Document.Value
import Sheetflow.Document.Yaml.Tag
import Sheetflow.Text.Base64

/-!
# Values of scalars

A tag says how the text of a scalar is read. Numbers may be grouped by underscores, and colons separate
digits of base sixty.
-/

namespace Sheetflow.Yaml

/-- The value of a digit in some base. -/
def digitIn? (base : Nat) (c : Char) : Option Nat :=
  let v := match Text.digitValue? c with
    | some v => some v
    | none =>
      if 'a' ≤ c && c ≤ 'z' then some (c.toNat - 87)
      else if 'A' ≤ c && c ≤ 'Z' then some (c.toNat - 55)
      else none
  v.filter (· < base)

/-- Without a mark for the base in front. -/
def dropBaseMark (base : Nat) : List Char → List Char
  | '0' :: c :: rest =>
    let mark := if base = 2 then 'b' else if base = 8 then 'o' else 'x'
    if base ≠ 10 && c.toLower == mark then rest else '0' :: c :: rest
  | cs => cs

/-- A whole number in some base, with a sign and blanks around it allowed. -/
def wholeNumber (base : Nat) (cs : List Char) : Except ScalarError Int :=
  let (negative, body) := Numeral.splitSign (Text.trimEnd (Text.trimStart cs))
  let ds := dropBaseMark base body
  match ds.mapM (digitIn? base) with
  | none => .error (.notWhole base (String.ofList cs))
  | some vs =>
    if vs.isEmpty then .error (.notWhole base (String.ofList cs))
    else if base = 10 ∧ digitLimit < vs.length then .error (.tooLong ⟨vs.length⟩)
    else
      let n : Nat := vs.foldl (fun a v => base * a + v) 0
      .ok (if negative then -(n : Int) else n)

/-- The parts between colons, without the colons. -/
def sixtiethParts (cs : List Char) : List (List Char) :=
  cs.foldr (fun c parts =>
    match c, parts with
    | ':', parts => [] :: parts
    | c, part :: parts => (c :: part) :: parts
    | c, [] => [[c]]) [[]]

def withoutGaps (cs : List Char) : List Char := cs.filter (· != '_')

/-- Underscores do not count; the base is told by how the number starts, and colons separate digits of
base sixty. -/
def intValue (s : String) : Except ScalarError Int := do
  match withoutGaps s.toList with
  | [] => throw .emptyNumber
  | c :: rest =>
    let negative := c == '-'
    let body := if c == '-' || c == '+' then rest else c :: rest
    let n : Int ←
      match body with
      | [] => throw .emptyNumber
      | ['0'] => pure 0
      | '0' :: 'b' :: ds => wholeNumber 2 ds
      | '0' :: 'x' :: ds => wholeNumber 16 ds
      | '0' :: ds => wholeNumber 8 ('0' :: ds)
      | ds =>
        if ds.contains ':' then do
          let parts ← (sixtiethParts ds).mapM (wholeNumber 10)
          pure (parts.foldl (fun a v => 60 * a + v) 0)
        else wholeNumber 10 ds
    return if negative then -n else n

def decimal (cs : List Char) : Except ScalarError Double :=
  match Numeral.readDouble? (String.ofList cs) with
  | some x => .ok x
  | none => .error (.notAFloat (String.ofList cs))

/-- The digits of base sixty added up from the last one on. -/
def sixtiethSum (parts : List Double) : Double :=
  (parts.reverse.foldl (fun (sum, base) x => (Double.add sum (Double.mul x (.ofInt base)), base * 60))
    (Double.zero false, (1 : Int))).1

def floatValue (s : String) : Except ScalarError Double := do
  match withoutGaps (Text.lower s).toList with
  | [] => throw .emptyNumber
  | c :: rest =>
    let negative := c == '-'
    let body := if c == '-' || c == '+' then rest else c :: rest
    let x ←
      if body == ".inf".toList then pure (Double.infinite false)
      else if body == ".nan".toList then return .nan
      else if body.contains ':' then pure (sixtiethSum (← (sixtiethParts body).mapM decimal))
      else decimal body
    return if negative then x.neg else x

def boolValue (s : String) : Except ScalarError Bool :=
  let word := Text.lower s
  if ["yes", "true", "on"].contains word then .ok true
  else if ["no", "false", "off"].contains word then .ok false
  else .error (.notATruthValue word)

def numberOf (ds : List Char) : Nat := Text.numeralValue ds

/-- The fraction of a second in microseconds; further digits do not count. -/
def microsecondsOf (ds : List Char) : Nat :=
  numberOf (ds.take 6 ++ List.replicate (6 - ds.length) '0')

def dateOf (p : TimestampParts) : Except ScalarError Date :=
  let d : Date := ⟨numberOf p.year, numberOf p.month, numberOf p.day⟩
  if d.year = 0 then .error (.yearRange d.year)
  else if d.month = 0 ∨ 12 < d.month then .error .monthRange
  else if d.day = 0 ∨ Date.daysInMonth d.year d.month < d.day then .error .dayRange
  else .ok d

/-- An offset from UTC in seconds, which is less than a day. -/
def offsetOf (p : TimestampParts) : Except ScalarError (Option Int) :=
  match p.offset with
  | none => .ok none
  | some none => .ok (some 0)
  | some (some (sign, hours, minutes)) =>
    let n : Int := numberOf hours * 3600 + numberOf minutes * 60
    let n := if sign == '-' then -n else n
    if secondsPerDay ≤ n.natAbs then .error (.offsetRange n) else .ok (some n)

def timestampValue (s : String) : Except ScalarError Value := do
  match TimestampParts.ofText? s.toList with
  | none => throw .notATimestamp
  | some p =>
    match p.clock with
    | none => return .date (← dateOf p)
    | some (hour, minute, second, fraction) =>
      let offset ← offsetOf p
      let d ← dateOf p
      let t : DateTime :=
        ⟨d, numberOf hour, numberOf minute, numberOf second, microsecondsOf fraction, offset⟩
      if 23 < t.hour then throw .hourRange
      else if 59 < t.minute then throw .minuteRange
      else if 59 < t.second then throw .secondRange
      else return .dateTime t

/-- The characters of a text are not all ASCII: which of them are the first that are not. -/
def asciiProblem (cs : List Char) : String :=
  let first := (cs.takeWhile fun c => c.toNat < 128).length
  let run := (cs.drop first).takeWhile fun c => 128 ≤ c.toNat
  let place := match run with
    | [c] => " '" ++ String.ofList (Text.escapeCode c) ++ "' in position " ++ toString first
    | _ => "s in position " ++ toString first ++ "-" ++ toString (first + run.length - 1)
  "'ascii' codec can't encode character" ++ place ++ ": ordinal not in range(128)"

/-- Bytes in base 64; other characters in between do not count. -/
def binaryValue (m : Mark) (s : String) : Except Error Bytes :=
  let cs := s.toList
  if cs.any fun c => 128 ≤ c.toNat then
    .error (.malformed ⟨none, none, "failed to convert base64 data into ascii: " ++ asciiProblem cs, m⟩)
  else
    (Text.Base64.decodeLoosely cs).mapError fun e =>
      .malformed ⟨none, none, "failed to decode base64 data: " ++ e.message, m⟩

/-- Is what the tag says read from a text? -/
def Tag.isScalar (t : Tag) : Bool :=
  [Tag.null, .bool, .int, .float, .binary, .timestamp, .str].contains t

/-- There is nothing that is marked so. -/
def Tag.undefined (t : Tag) (m : Mark) : Error :=
  .malformed ⟨none, none, "could not determine a constructor for the tag " ++ Text.quoted t.uri, m⟩

/-- The value of a text with this tag, which stands at a place. -/
def Tag.read (t : Tag) (m : Mark) (s : String) : Except Error Value :=
  match t with
  | .null => .ok .null
  | .bool => ((boolValue s).map .bool).mapError .scalar
  | .int => ((intValue s).map .int).mapError .scalar
  | .float => ((floatValue s).map .float).mapError .scalar
  | .binary => (binaryValue m s).map .bytes
  | .timestamp => (timestampValue s).mapError .scalar
  | .str => .ok (.str s)
  | t => .error (t.undefined m)

end Sheetflow.Yaml
