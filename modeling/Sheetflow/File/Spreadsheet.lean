import Sheetflow.Matrix
import Sheetflow.Time.Calendar

/-!
# Worksheets of a spreadsheet

A worksheet comes as rows of values with merged ranges. Every value becomes a plain cell: a truth value
its word, a date or a time its text, and what is neither a number nor a text is shown as one. Of a
merged range only the first cell keeps its value, and empty ends are left out.
-/

namespace Sheetflow

/-- What a cell of a spreadsheet holds. -/
inductive SheetEntry where
  | nothing
  | bool (b : Bool)
  | int (i : Int)
  | float (x : Double)
  | text (s : String)
  | moment (t : DateTime)
  | day (d : Date)
  /-- A time of day. -/
  | clock (hour minute second micro : Nat)
  /-- Anything else, by the text that shows it. -/
  | other (shown : String)
deriving Inhabited

/-- A rectangle of cells by its first and last row and column, counted from zero. -/
structure MergedRange where
  top : Nat
  left : Nat
  bottom : Nat
  right : Nat

/-- Does the range hide the cell at row `i` and column `j`? -/
def MergedRange.hides (r : MergedRange) (i j : Nat) : Bool :=
  r.top ≤ i && i ≤ r.bottom && r.left ≤ j && j ≤ r.right && !(i == r.top && j == r.left)

structure Worksheet where
  title : String
  rows : List (List SheetEntry)
  merged : List MergedRange

def SheetEntry.toCell : SheetEntry → Cell
  | .nothing => .empty
  | .bool b => .text (if b then "TRUE" else "FALSE")
  | .int i => .int i
  | .float x => .float x
  | .text s => .text s
  | .moment t => .text t.text
  | .day d => .text d.text
  | .clock hour minute second micro =>
    .text (DateTime.clockText { date := default, hour, minute, second, micro, offset := none })
  | .other shown => .text shown

/-- The contents of the cells. -/
def Worksheet.matrix (s : Worksheet) : Matrix :=
  Matrix.trim (s.rows.zipIdx.map fun (row, i) =>
    Row.trim (row.zipIdx.map fun (entry, j) =>
      if s.merged.any (·.hides i j) then .empty else entry.toCell))

end Sheetflow
