import Sheetflow.Matrix

/-!
# Reading comma-separated text

The reader takes one character at a time. A field that starts with a quote runs to the next quote
that is not doubled, line breaks included; text behind the closing quote is kept as part of the
field. Anywhere else a quote is an ordinary character. A record ends at a line feed, a carriage
return or both together, and a line without characters is a record without fields. What is still
open when the text ends is closed there.
-/

namespace Sheetflow.Csv

/-- The most characters a field may have. -/
def fieldLimit : Nat := 131072

/-- A field grew beyond the limit. -/
structure FieldTooLong where
deriving DecidableEq

def FieldTooLong.message (_ : FieldTooLong) : String :=
  "field larger than field limit (" ++ toString fieldLimit ++ ")"

/-- Where the reader stands. -/
inductive Mode where
  | recordStart
  /-- Behind a carriage return, of which a line feed would be part. -/
  | afterReturn
  | fieldStart
  | plain
  | quoted
  /-- Behind a quote inside a quoted field: it closes the field or is the first of two. -/
  | quoteSeen
deriving DecidableEq, Repr

/-- What has been read; lists are kept with the latest first. -/
structure Reader where
  mode : Mode
  field : List Char
  size : Nat
  record : List String
  records : List (List String)

namespace Reader

def fresh : Reader := ⟨.recordStart, [], 0, [], []⟩

def addChar (r : Reader) (mode : Mode) (c : Char) : Except FieldTooLong Reader :=
  if fieldLimit ≤ r.size then .error {}
  else .ok { r with mode, field := c :: r.field, size := r.size + 1 }

def endField (r : Reader) : Reader :=
  { r with mode := .fieldStart, field := [], size := 0, record := String.ofList r.field.reverse :: r.record }

def endRecord (r : Reader) (mode : Mode) : Reader :=
  { r with mode, record := [], records := r.record.reverse :: r.records }

/-- Does the character end the line? If so, where does the reader stand behind it? -/
def lineEnd? (c : Char) : Option Mode :=
  if c = '\n' then some .recordStart else if c = '\r' then some .afterReturn else none

/-- A character at the start of a field. -/
def atFieldStart (r : Reader) (c : Char) : Except FieldTooLong Reader :=
  match lineEnd? c with
  | some mode => .ok (r.endField.endRecord mode)
  | none =>
    if c = '"' then .ok { r with mode := .quoted }
    else if c = ',' then .ok r.endField
    else r.addChar .plain c

/-- A character at the start of a record. -/
def atRecordStart (r : Reader) (c : Char) : Except FieldTooLong Reader :=
  match lineEnd? c with
  | some mode => .ok (r.endRecord mode)
  | none => r.atFieldStart c

def step (r : Reader) (c : Char) : Except FieldTooLong Reader :=
  match r.mode with
  | .recordStart => r.atRecordStart c
  | .afterReturn => if c = '\n' then .ok { r with mode := .recordStart } else r.atRecordStart c
  | .fieldStart => r.atFieldStart c
  | .plain =>
    match lineEnd? c with
    | some mode => .ok (r.endField.endRecord mode)
    | none => if c = ',' then .ok r.endField else r.addChar .plain c
  | .quoted => if c = '"' then .ok { r with mode := .quoteSeen } else r.addChar .quoted c
  | .quoteSeen =>
    if c = '"' then r.addChar .quoted c
    else match lineEnd? c with
      | some mode => .ok (r.endField.endRecord mode)
      | none => if c = ',' then .ok r.endField else r.addChar .plain c

def feed (r : Reader) : List Char → Except FieldTooLong Reader
  | [] => .ok r
  | c :: cs =>
    match r.step c with
    | .ok r => r.feed cs
    | .error e => .error e

/-- The records, once the text has ended. -/
def finish (r : Reader) : List (List String) :=
  match r.mode with
  | .recordStart | .afterReturn => r.records.reverse
  | _ => (r.endField.endRecord .recordStart).records.reverse

end Reader

/-- The records of a text. -/
def records (text : List Char) : Except FieldTooLong (List (List String)) :=
  (Reader.fresh.feed text).map Reader.finish

/-- The matrix that records make: empty fields are empty cells, and nothing empty stands at the ends
of rows or of the matrix. -/
def toMatrix (rs : List (List String)) : Matrix :=
  Matrix.trim (rs.map fun fields => Row.trim (fields.map fun f => if f = "" then .empty else .text f))

def read (text : List Char) : Except FieldTooLong Matrix := (records text).map toMatrix

end Sheetflow.Csv
