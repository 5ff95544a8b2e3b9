import Sheetflow.Column.Header

/-!
# The state of a run

A run works on named worksheets, of which one is active. The state keeps the header map of the
active worksheet, which is derived afresh whenever its contents change or another worksheet becomes
active, and the names of the worksheets that rules selected.
-/

namespace Sheetflow

/-- Worksheets by name, in order. -/
abbrev Workbook := List (String × Matrix)

namespace Workbook

def names (wb : Workbook) : List String := wb.map (·.1)

def sheet? (wb : Workbook) (name : String) : Option Matrix := wb.lookup name

/-- Replace the contents of a worksheet. -/
def setSheet (wb : Workbook) (name : String) (m : Matrix) : Workbook :=
  wb.map fun s => if s.1 = name then (s.1, m) else s

/-- Add a worksheet; one of the same name is replaced where it stands. -/
def insert (wb : Workbook) (name : String) (m : Matrix) : Workbook :=
  if name ∈ wb.names then wb.setSheet name m else wb ++ [(name, m)]

def ofList (sheets : List (String × Matrix)) : Workbook :=
  sheets.foldl (fun wb s => wb.insert s.1 s.2) []

theorem names_setSheet (wb : Workbook) (name : String) (m : Matrix) :
    (wb.setSheet name m).names = wb.names := by
  simp only [names, setSheet, List.map_map]
  congr 1; funext s; simp only [Function.comp]; split <;> rfl

end Workbook

structure RunState where
  active : String
  sheets : Workbook
  headers : Headers
  /-- The worksheets that were selected, the first one first. -/
  selected : List String
deriving DecidableEq

namespace RunState

/-- The contents of the active worksheet. -/
def matrix (s : RunState) : Matrix := (s.sheets.sheet? s.active).getD []

/-- The first worksheet is active at the start. -/
def initial? : Workbook → Option RunState
  | [] => none
  | (name, m) :: wb =>
    some { active := name, sheets := (name, m) :: wb, headers := .ofMatrix m, selected := [] }

/-- Replace the contents of the active worksheet. -/
def withMatrix (s : RunState) (m : Matrix) : RunState :=
  { s with sheets := s.sheets.setSheet s.active m, headers := .ofMatrix m }

/-- Make another worksheet active. -/
def select? (s : RunState) (name : String) : Option RunState :=
  (s.sheets.sheet? name).map fun m =>
    { s with active := name, headers := .ofMatrix m, selected := s.selected ++ [name] }

/-- Columns that exist in the active worksheet. -/
def width (s : RunState) : Nat := s.matrix.width

end RunState

end Sheetflow
