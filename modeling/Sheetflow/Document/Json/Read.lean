import Sheetflow.Column.Reference
import Sheetflow.Document.Value

/-!
# Reading JSON

A text is one value with blanks around it. Numbers with a point or an exponent are floating-point
numbers, all others whole ones; the words for infinities and for what is not a number are read too.
Of equal keys the last value counts. A fault is reported with its line, its column and its offset. How
many lists and maps may lie in each other is given; a text that goes deeper is read no further.
-/

namespace Sheetflow.Json

inductive Cause where
  | mark
  | expectingValue
  | expectingName
  | expectingColon
  | expectingComma
  | unterminated
  | control
  | badEscape
  | badUnicodeEscape
  | extraData
deriving DecidableEq, Repr

def Cause.message : Cause → String
  | .mark => "Unexpected UTF-8 BOM (decode using utf-8-sig)"
  | .expectingValue => "Expecting value"
  | .expectingName => "Expecting property name enclosed in double quotes"
  | .expectingColon => "Expecting ':' delimiter"
  | .expectingComma => "Expecting ',' delimiter"
  | .unterminated => "Unterminated string starting at"
  | .control => "Invalid control character at"
  | .badEscape => "Invalid \\escape"
  | .badUnicodeEscape => "Invalid \\uXXXX escape"
  | .extraData => "Extra data"

/-- Why a text is no JSON. -/
inductive Error where
  | fault (cause : Cause) (offset : Nat)
  | numeral (e : NumeralTooLong)
  /-- There is no room for one more of these. -/
  | tooDeep (collection : String)
deriving DecidableEq

/-- The message where there is no room for one more collection. -/
def depthMessage (collection : String) : String :=
  "maximum recursion depth exceeded while decoding a JSON " ++ collection ++ " from a unicode string"

/-- The message for a fault in the given text. -/
def faultMessage (text : List Char) (cause : Cause) (offset : Nat) : String :=
  let before := text.take offset
  let line := before.count '\n' + 1
  let column := (before.reverse.takeWhile (· != '\n')).length + 1
  cause.message ++ ": line " ++ toString line ++ " column " ++ toString column ++ " (char " ++
    toString offset ++ ")"

/-- What has not been read yet and where it starts. -/
structure Place where
  offset : Nat
  rest : List Char

abbrev Reading := StateT Place (Except Error)

def fail {α : Type} (cause : Cause) (offset : Nat) : Reading α := throw (.fault cause offset)

/-- Pass `n` characters. -/
def skip (n : Nat) : Reading Unit := modify fun p => ⟨p.offset + n, p.rest.drop n⟩

def isSpace (c : Char) : Bool := c == ' ' || c == '\t' || c == '\n' || c == '\r'

def skipSpace : Reading Unit := do
  skip ((← get).rest.takeWhile isSpace).length

def peek : Reading (Option Char) := return (← get).rest.head?

/-- Pass the character `c`, or fail. -/
def expect (c : Char) (cause : Cause) : Reading Unit := do
  if (← peek) = some c then skip 1 else fail cause (← get).offset

def hexValue? (c : Char) : Option Nat :=
  if '0' ≤ c && c ≤ '9' then some (c.toNat - 48)
  else if 'a' ≤ c && c ≤ 'f' then some (c.toNat - 87)
  else if 'A' ≤ c && c ≤ 'F' then some (c.toNat - 55)
  else none

/-- The four hexadecimal digits that come next; `letter` is the offset of the letter before them. -/
def fourHex (letter : Nat) : Reading Nat := do
  let p ← get
  let ds := p.rest.take 4
  if (p.rest.drop 4).isEmpty then fail .badUnicodeEscape letter
  else match ds.mapM hexValue? with
    | some vs => skip 4; return vs.foldl (fun n v => 16 * n + v) 0
    | none => fail .badUnicodeEscape letter

/-- A character given by its 16-bit units, behind the letter of the first of them. -/
def unicodeEscape : Reading Char := do
  let high ← fourHex ((← get).offset - 1)
  let p ← get
  if 0xD800 ≤ high && high < 0xDC00 && !(p.rest.drop 6).isEmpty && p.rest.take 2 == ['\\', 'u'] then
    skip 2
    let low ← fourHex ((← get).offset - 1)
    if 0xDC00 ≤ low && low < 0xE000 then
      return Char.ofNat (0x10000 + (high - 0xD800) * 1024 + (low - 0xDC00))
    else
      set p
      return '\uFFFD'
  else return if 0xD800 ≤ high && high < 0xE000 then '\uFFFD' else Char.ofNat high

/-- What a backslash and this character stand for. -/
def escapeOf? : Char → Option Char
  | '"' => some '"'
  | '\\' => some '\\'
  | '/' => some '/'
  | 'b' => some '\x08'
  | 'f' => some '\x0c'
  | 'n' => some '\n'
  | 'r' => some '\r'
  | 't' => some '\t'
  | _ => none

/-- The characters up to the closing quote; `start` is the offset of the opening one. -/
def stringRest (start : Nat) (done : List Char) : Nat → Reading String
  | 0 => fail .unterminated start
  | fuel + 1 => do
    let p ← get
    match p.rest with
    | [] => fail .unterminated start
    | '"' :: _ => skip 1; return String.ofList done.reverse
    | ['\\'] => fail .unterminated start
    | '\\' :: 'u' :: _ =>
      skip 2
      stringRest start ((← unicodeEscape) :: done) fuel
    | '\\' :: c :: _ =>
      match escapeOf? c with
      | some d => skip 2; stringRest start (d :: done) fuel
      | none => fail .badEscape p.offset
    | c :: _ =>
      if c.toNat < 32 then fail .control p.offset
      else
        skip 1
        stringRest start (c :: done) fuel

def string : Reading String := do
  let p ← get
  skip 1
  stringRest p.offset [] p.rest.length

def isDigit (c : Char) : Bool := '0' ≤ c && c ≤ '9'

/-- The digits at the head of a text; behind a zero there are no others. -/
def wholeDigits : List Char → List Char
  | '0' :: _ => ['0']
  | cs => cs.takeWhile isDigit

/-- The digits behind a point at the head of a text, if there are some. -/
def fraction? : List Char → Option (List Char)
  | '.' :: more => if more.head?.any isDigit then some (more.takeWhile isDigit) else none
  | _ => none

/-- Is an exponent negative, the digits of it, and how many characters it has with its letter. -/
structure Exponent where
  negative : Bool
  digits : List Char
  length : Nat

/-- The exponent at the head of a text. -/
def exponent? : List Char → Option Exponent
  | e :: more =>
    if e == 'e' || e == 'E' then
      let negative := more.head? == some '-'
      let signed := negative || more.head? == some '+'
      let ds := (if signed then more.drop 1 else more).takeWhile isDigit
      if ds.isEmpty then none else some ⟨negative, ds, 1 + (if signed then 1 else 0) + ds.length⟩
    else none
  | [] => none

/-- The parts of a numeral at the head of a text: the digits before the point, those behind it if
any, and the exponent if any. -/
structure NumeralParts where
  negative : Bool
  whole : List Char
  fraction : Option (List Char)
  exponent : Option Exponent
  length : Nat

def numeralParts? (cs : List Char) : Option NumeralParts :=
  let negative := cs.head? == some '-'
  let body := if negative then cs.drop 1 else cs
  let whole := wholeDigits body
  if whole.isEmpty then none
  else
    let rest := body.drop whole.length
    let fraction := fraction? rest
    let taken := (fraction.map fun ds => ds.length + 1).getD 0
    let exponent := exponent? (rest.drop taken)
    some
      { negative, whole, fraction, exponent
        length := (if negative then 1 else 0) + whole.length + taken +
          (exponent.map Exponent.length).getD 0 }

def digitsValue (ds : List Char) : Nat := ds.foldl (fun n c => 10 * n + (c.toNat - 48)) 0

/-- The value of a numeral. -/
def NumeralParts.value (n : NumeralParts) : Except Error Value :=
  match n.fraction, n.exponent with
  | none, none =>
    if digitLimit < n.whole.length then .error (.numeral ⟨n.whole.length⟩)
    else
      let i : Int := digitsValue n.whole
      .ok (.int (if n.negative then -i else i))
  | frac, exp =>
    let ds := frac.getD []
    let e : Int := match exp with
      | some e => if e.negative then -(digitsValue e.digits : Int) else digitsValue e.digits
      | none => 0
    .ok (.float (.ofDecimal n.negative (digitsValue (n.whole ++ ds)) (e - ds.length)))

/-- Words that stand for values. -/
def words : List (String × Value) :=
  [("null", .null), ("true", .bool true), ("false", .bool false), ("NaN", .float .nan),
    ("Infinity", .float (.infinite false)), ("-Infinity", .float (.infinite true))]

/-- A word or a number. -/
def scalar : Reading Value := do
  let p ← get
  match words.find? (fun w => w.1.toList.isPrefixOf p.rest) with
  | some (w, v) => skip w.length; return v
  | none =>
    match numeralParts? p.rest with
    | none => fail .expectingValue p.offset
    | some n =>
      match n.value with
      | .ok v => skip n.length; return v
      | .error e => throw e

/-- The room inside of one more collection. -/
def enter (collection : String) : Nat → Reading Nat
  | 0 => throw (.tooDeep collection)
  | room + 1 => return room

mutual

/-- A value that has room for that many collections in each other. -/
def value (room : Nat) : Nat → Reading Value
  | 0 => do fail .expectingValue (← get).offset
  | fuel + 1 => do
    match ← peek with
    | some '"' => return .str (← string)
    | some '[' =>
      let inside ← enter "array" room
      skip 1
      skipSpace
      if (← peek) = some ']' then
        skip 1
        return .list []
      else return .list (← elements inside [] fuel)
    | some '\x7b' =>
      let inside ← enter "object" room
      skip 1
      skipSpace
      if (← peek) = some '\x7d' then
        skip 1
        return .map []
      else return .map (← entries inside [] fuel)
    | _ => scalar

/-- The elements up to the closing bracket, the latest first in `done`. -/
def elements (room : Nat) (done : List Value) : Nat → Reading (List Value)
  | 0 => do fail .expectingValue (← get).offset
  | fuel + 1 => do
    let v ← value room fuel
    skipSpace
    if (← peek) = some ']' then
      skip 1
      return (v :: done).reverse
    else
      expect ',' .expectingComma
      skipSpace
      elements room (v :: done) fuel

/-- The entries up to the closing brace. -/
def entries (room : Nat) (done : List (Value × Value)) : Nat → Reading (List (Value × Value))
  | 0 => do fail .expectingName (← get).offset
  | fuel + 1 => do
    if (← peek) ≠ some '"' then fail .expectingName (← get).offset
    else
      let key ← string
      skipSpace
      expect ':' .expectingColon
      skipSpace
      let v ← value room fuel
      let done := Value.setEntry done (.str key) v
      skipSpace
      if (← peek) = some '\x7d' then
        skip 1
        return done
      else
        expect ',' .expectingComma
        skipSpace
        entries room done fuel

end

def document (room : Nat) : Reading Value := do
  let p ← get
  if p.rest.head? = some '\uFEFF' then fail .mark 0
  else
    skipSpace
    let v ← value room (2 * p.rest.length + 2)
    skipSpace
    let p ← get
    if p.rest.isEmpty then return v else fail .extraData p.offset

/-- Read a JSON text. -/
def read (room : Nat) (text : List Char) : Except Error Value :=
  ((document room).run ⟨0, text⟩).map (·.1)

end Sheetflow.Json
