import Sheetflow.Text.Utf8

/-!
# Base 64

Three bytes are written as four characters of an alphabet of sixty-four, and a rest of one or two bytes
as two or three characters, filled up with equals signs or not. Strict reading refuses everything that
stands elsewhere than `encode` would put it, and says what; reading without filling accepts any
number of equals signs at the end.
-/

namespace Sheetflow.Text.Base64

/-- The two last characters of an alphabet; the others are letters and digits. -/
structure Alphabet where
  last : Char
  lastButOne : Char

/-- The alphabet for texts. -/
def plain : Alphabet := ⟨'/', '+'⟩

/-- The alphabet for parts of addresses. -/
def forUrls : Alphabet := ⟨'_', '-'⟩

/-- The character for a value below sixty-four. -/
def digit (a : Alphabet) (n : Nat) : Char :=
  if n < 26 then Char.ofNat (65 + n)
  else if n < 52 then Char.ofNat (71 + n)
  else if n < 62 then Char.ofNat (n - 4)
  else if n = 62 then a.lastButOne
  else a.last

/-- The value of a character. -/
def value? (a : Alphabet) (c : Char) : Option Nat :=
  if 'A' ≤ c && c ≤ 'Z' then some (c.toNat - 65)
  else if 'a' ≤ c && c ≤ 'z' then some (c.toNat - 71)
  else if '0' ≤ c && c ≤ '9' then some (c.toNat + 4)
  else if c = a.lastButOne then some 62
  else if c = a.last then some 63
  else none

/-- Write bytes, `filler` standing for each missing character of the last group. -/
def encodeWith (a : Alphabet) (filler : List Char) : Bytes → List Char
  | [] => []
  | [x] => digit a (x.toNat / 4) :: digit a (x.toNat % 4 * 16) :: (filler ++ filler)
  | [x, y] =>
    digit a (x.toNat / 4) :: digit a (x.toNat % 4 * 16 + y.toNat / 16) ::
      digit a (y.toNat % 16 * 4) :: filler
  | x :: y :: z :: rest =>
    digit a (x.toNat / 4) :: digit a (x.toNat % 4 * 16 + y.toNat / 16) ::
      digit a (y.toNat % 16 * 4 + z.toNat / 64) :: digit a (z.toNat % 64) :: encodeWith a filler rest

def encode (bs : Bytes) : String := String.ofList (encodeWith plain ['='] bs)

def encodeForUrl (bs : Bytes) : String := String.ofList (encodeWith forUrls [] bs)

/-- The bytes that values below sixty-four stand for; what is left of an incomplete byte is
dropped. -/
def bytesOf : List Nat → Bytes
  | a :: b :: c :: d :: rest =>
    (a * 4 + b / 16).toUInt8 :: (b % 16 * 16 + c / 4).toUInt8 :: (c % 4 * 64 + d).toUInt8 :: bytesOf rest
  | [a, b, c] => [(a * 4 + b / 16).toUInt8, (b % 16 * 16 + c / 4).toUInt8]
  | [a, b] => [(a * 4 + b / 16).toUInt8]
  | _ => []

/-- Why a text is refused. -/
inductive Error where
  | notAscii
  | leadingPadding
  | foreignCharacter
  | paddingInside
  | dataAfterPadding
  | lonelyCharacter (count : Nat)
  | incorrectPadding
deriving DecidableEq, Repr

def Error.message : Error → String
  | .notAscii => "string argument should contain only ASCII characters"
  | .leadingPadding => "Leading padding not allowed"
  | .foreignCharacter => "Only base64 data is allowed"
  | .paddingInside => "Discontinuous padding not allowed"
  | .dataAfterPadding => "Excess data after padding"
  | .lonelyCharacter n =>
    "Invalid base64-encoded string: number of data characters (" ++ toString n ++
      ") cannot be 1 more than a multiple of 4"
  | .incorrectPadding => "Incorrect padding"

/-- A strict reader on its way: the values read, the latest first, the equals signs since the last of
them, and whether there has been any. -/
structure Reader where
  values : List Nat
  pads : Nat
  padded : Bool

/-- What a text ends with. -/
def Reader.finish (r : Reader) : Except Error Bytes :=
  match r.values.length % 4 with
  | 0 => .ok (bytesOf r.values.reverse)
  | 1 => .error (.lonelyCharacter r.values.length)
  | _ => .error .incorrectPadding

def Reader.run (r : Reader) : List Char → Except Error Bytes
  | [] => r.finish
  | c :: cs =>
    if c = '=' then
      let place := r.values.length % 4
      if 2 ≤ place then
        if 4 ≤ place + r.pads + 1 then
          if cs.isEmpty then .ok (bytesOf r.values.reverse) else .error .dataAfterPadding
        else Reader.run { r with pads := r.pads + 1, padded := true } cs
      else Reader.run { r with padded := true } cs
    else match value? plain c with
      | none => .error .foreignCharacter
      | some v =>
        if r.padded then .error .paddingInside
        else Reader.run ⟨v :: r.values, 0, false⟩ cs

/-- Read strictly. -/
def decode (s : String) : Except Error Bytes :=
  let cs := s.toList
  if cs.any fun c => 128 ≤ c.toNat then .error .notAscii
  else if cs.head? = some '=' then .error .leadingPadding
  else Reader.run ⟨[], 0, false⟩ cs

/-- Read base 64 and pass all that does not belong to it. -/
def Reader.runLoosely (r : Reader) : List Char → Except Error Bytes
  | [] => r.finish
  | c :: cs =>
    if c = '=' then
      let place := r.values.length % 4
      if 2 ≤ place then
        if 4 ≤ place + r.pads + 1 then .ok (bytesOf r.values.reverse)
        else Reader.runLoosely { r with pads := r.pads + 1 } cs
      else Reader.runLoosely r cs
    else match value? plain c with
      | none => Reader.runLoosely r cs
      | some v => Reader.runLoosely ⟨v :: r.values, 0, false⟩ cs

def decodeLoosely (cs : List Char) : Except Error Bytes := Reader.runLoosely ⟨[], 0, false⟩ cs

/-- Read a part of an address, whose end may be filled up or not. -/
def decodeUrl? (cs : List Char) : Option Bytes :=
  match (cs.reverse.dropWhile (· == '=')).reverse.mapM (value? forUrls) with
  | none => none
  | some vs => if vs.length % 4 = 1 then none else some (bytesOf vs)

theorem value?_digit_plain : ∀ n < 64, value? plain (digit plain n) = some n := by decide

theorem value?_digit_forUrls : ∀ n < 64, value? forUrls (digit forUrls n) = some n := by decide

theorem digit_ne_equals : ∀ n < 64, digit plain n ≠ '=' := by decide

end Sheetflow.Text.Base64
