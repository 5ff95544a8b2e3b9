import Sheetflow.Number.Double
import Sheetflow.Text.Blank
import Sheetflow.Text.Case
import Sheetflow.Text.Digit

/-!
# Reading numbers

Whole numbers are read from digits of any script, with single underscores between digits and an
optional sign; a numeral of more than `digitLimit` digits is refused, and so is writing one. Floating-point numbers are read
from decimal notation and from the words for infinity and for what is not a number.
-/

namespace Sheetflow

/-- The most digits a whole number may be written with. -/
def digitLimit : Nat := 4300

/-- A numeral with more digits than are read. -/
structure NumeralTooLong where
  digits : Nat
deriving DecidableEq

def NumeralTooLong.message (e : NumeralTooLong) : String :=
  "Exceeds the limit (" ++ toString digitLimit ++ " digits) for integer string conversion: value has " ++
    toString e.digits ++ " digits; use sys.set_int_max_str_digits() to increase the limit"

/-- Can a number be written, with no more digits than that? -/
def isWritable (n : Nat) : Bool := (Nat.toDigits 10 n).length ≤ digitLimit

namespace Numeral

/-- The digits of a numeral without the single underscores between them; nothing if it is no
numeral. -/
def digits? (isOk : Char → Bool) : List Char → Option (List Char)
  | [] => none
  | [c] => if isOk c then some [c] else none
  | c :: '_' :: rest => if isOk c then (digits? isOk rest).map (c :: ·) else none
  | c :: rest => if isOk c then (digits? isOk rest).map (c :: ·) else none

def splitSign : List Char → Bool × List Char
  | '-' :: cs => (true, cs)
  | '+' :: cs => (false, cs)
  | cs => (false, cs)

/-- What a text says as a whole number. -/
inductive Reading where
  | value (i : Int)
  | notANumber
  | tooLong (digits : Nat)
deriving DecidableEq

/-- Read a whole number that has no blanks around it. -/
def readInt (cs : List Char) : Reading :=
  let (negative, body) := splitSign cs
  match digits? Text.isDigit body with
  | none => .notANumber
  | some ds =>
    if digitLimit < ds.length then .tooLong ds.length
    else
      let n : Int := Text.numeralValue ds
      .value (if negative then -n else n)

/-- Digits, then perhaps a point and digits, then perhaps an exponent: the digits before the point,
those behind it, and the exponent. -/
def decimalParts? (cs : List Char) : Option (List Char × List Char × Int) :=
  let whole := cs.takeWhile (fun c => Text.isDigit c || c == '_')
  let rest := cs.dropWhile (fun c => Text.isDigit c || c == '_')
  let (frac, rest) := match rest with
    | '.' :: r =>
      (r.takeWhile (fun c => Text.isDigit c || c == '_'),
        r.dropWhile (fun c => Text.isDigit c || c == '_'))
    | r => ([], r)
  let clean (ds : List Char) : Option (List Char) :=
    if ds.isEmpty then some [] else digits? Text.isDigit ds
  match clean whole, clean frac with
  | some w, some f =>
    if w.isEmpty && f.isEmpty then none
    else match rest with
      | [] => some (w, f, 0)
      | c :: r =>
        if c == 'e' || c == 'E' then
          let (negative, ds) := splitSign r
          match digits? Text.isDigit ds with
          | some ds =>
            let n : Int := Text.numeralValue ds
            some (w, f, if negative then -n else n)
          | none => none
        else none
  | _, _ => none

/-- Read a floating-point number, blanks around it allowed. -/
def readDouble? (s : String) : Option Double :=
  let (negative, body) := splitSign (Text.trim s).toList
  match String.ofList (body.map Char.toLower) with
  | "inf" => some (.infinite negative)
  | "infinity" => some (.infinite negative)
  | "nan" => some .nan
  | _ =>
    (decimalParts? body).map fun (w, f, e) =>
      .ofDecimal negative (Text.numeralValue (w ++ f)) (e - f.length)

end Numeral

end Sheetflow
