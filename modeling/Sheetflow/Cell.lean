import Sheetflow.Number.Decimal
import Sheetflow.Text.Blank

/-!
# Cells

A cell is empty or holds a text, a whole number, a floating-point number or a truth value. All
matching, replacing and writing goes through one text form, `Cell.toText`.
-/

namespace Sheetflow

inductive Cell where
  | empty
  | text (s : String)
  | int (i : Int)
  | float (x : Double)
  | bool (b : Bool)
deriving DecidableEq, Repr, Inhabited

namespace Cell

/-- The text of a floating-point number; a whole number is written without a point, so that it
matches the same number kept as an integer. -/
def floatText (x : Double) : String :=
  match x.toInt? with
  | some i => toString i
  | none => x.text

/-- The text form of a cell. -/
def toText : Cell → String
  | .empty => ""
  | .text s => s
  | .int i => toString i
  | .float x => floatText x
  | .bool b => if b then "TRUE" else "FALSE"

/-- A cell is blank if its text holds nothing but blanks. -/
def isBlank (c : Cell) : Bool := Text.isBlankText c.toText

/-- Is the cell empty, or an empty text? -/
def isVoid (c : Cell) : Bool := c == .empty || c == .text ""

@[simp] theorem toText_empty : toText .empty = "" := rfl
@[simp] theorem toText_text (s : String) : toText (.text s) = s := rfl
@[simp] theorem isBlank_empty : isBlank .empty = true := by simp [isBlank, Text.isBlankText]

end Cell

end Sheetflow
