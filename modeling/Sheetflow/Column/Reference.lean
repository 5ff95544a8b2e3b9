import Sheetflow.Column.Header
import Sheetflow.Column.Name
import Sheetflow.Number.Numeral

/-!
# Column references

Rules name columns by index, by letter code or by header text. `resolve` tries these in this order:
a numeral is an index; a letter code is the index it stands for as long as the matrix is that wide;
anything else, and a letter code beyond the width, is looked up among the headers. A letter code
beyond the width that is no header keeps its index, so that it is reported as out of range.
`resolveAll` turns a list of references into distinct columns that exist, with one warning for every
reference that leads nowhere.
-/

namespace Sheetflow

/-- How a column is referred to. -/
inductive ColumnRef where
  | absent
  | index (i : Int)
  | text (s : String)
deriving DecidableEq

namespace ColumnRef

/-- The reference as warnings show it. -/
def shown : ColumnRef → String
  | .absent => "None"
  | .index i => toString i
  | .text s => s

/-- Resolve the trimmed text of a reference. -/
def resolveText (headers : Headers) (width : Option Nat) (text : String) :
    Except NumeralTooLong (Option Nat) :=
  let cs := text.toList
  if cs.isEmpty then .ok none
  else if cs.all Text.isDigit then
    if digitLimit < cs.length then .error ⟨cs.length⟩ else .ok (some (Text.numeralValue cs))
  else
    let header := headers.find? (Text.lower text)
    if cs.all Text.isAsciiLetter then
      match Column.indexOf text with
      | .error _ => .ok header
      | .ok i =>
        if width.all (i < ·) then .ok (some i) else .ok (header.getD i)
    else .ok header

/-- The column a reference stands for, in a matrix with these headers and, if given, of this
width. -/
def resolve (headers : Headers) (width : Option Nat) : ColumnRef → Except NumeralTooLong (Option Nat)
  | .absent => .ok none
  | .index i => .ok (if 0 ≤ i then some i.toNat else none)
  | .text s => resolveText headers width (Text.trim s)

/-- The columns found so far and the warnings so far. -/
structure Resolution where
  columns : List Nat
  warnings : List String
deriving DecidableEq

/-- What one more reference, resolved to `target`, adds. -/
def Resolution.add (r : Resolution) (width : Nat) (ref : ColumnRef) (target : Option Nat) :
    Resolution :=
  match target with
  | none => { r with warnings := r.warnings ++ ["Column \"" ++ ref.shown ++ "\" not found"] }
  | some i =>
    if width ≤ i then
      { r with warnings := r.warnings ++
          ["Column \"" ++ ref.shown ++ "\" is out of range (matrix has " ++ toString width ++ " columns)"] }
    else if i ∈ r.columns then r
    else { r with columns := r.columns ++ [i] }

def resolveFrom (headers : Headers) (width : Nat) (r : Resolution) :
    List ColumnRef → Except NumeralTooLong Resolution
  | [] => .ok r
  | ref :: refs =>
    match ref.resolve headers (some width) with
    | .error e => .error e
    | .ok target => resolveFrom headers width (r.add width ref target) refs

/-- The distinct columns that exist among the referenced ones, in the order of first reference. -/
def resolveAll (headers : Headers) (width : Nat) (refs : List ColumnRef) :
    Except NumeralTooLong Resolution :=
  resolveFrom headers width ⟨[], []⟩ refs

end ColumnRef

/-- The indices below `count` of rows given by number, the first row having number 1. -/
def rowIndices (numbers : List Int) (count : Nat) : List Nat :=
  (List.range count).filter fun i => ((i : Int) + 1) ∈ numbers

end Sheetflow
