import Sheetflow.Rule.Basic
import Sheetflow.Run.Outcome

/-!
# Filling gaps in columns

In each of the given columns a blank cell takes the value of the nearest cell before it that is not
blank, where the first row never takes a value. Filling upwards does the same from the last row to
the first. Rows that are too short for a filled cell are lengthened.
-/

namespace Sheetflow

/-- Put a value into a cell, lengthening the row if needed. -/
def Row.put (row : Row) (i : Nat) (c : Cell) : Row := (row.pad (i + 1)).set i c

/-- Rows with a gap filled, and how many were. -/
structure Filled where
  rows : List Row
  count : Nat

/-- Fill column `col` in rows given in the order of filling, each with whether it may take a value;
`carry` is the latest value that is not blank. -/
def fillRows (col : Nat) (carry : Option Cell) : List (Bool × Row) → Filled
  | [] => ⟨[], 0⟩
  | (mayTake, row) :: rest =>
    let value := Row.cell row col
    if value.isBlank then
      let below := fillRows col carry rest
      match carry with
      | some c =>
        if mayTake then ⟨row.put col c :: below.rows, below.count + 1⟩
        else ⟨row :: below.rows, below.count⟩
      | none => ⟨row :: below.rows, below.count⟩
    else
      let below := fillRows col (some value) rest
      ⟨row :: below.rows, below.count⟩

/-- The rows with whether they may take a value: all but the first. -/
def markTakers : List Row → List (Bool × Row)
  | [] => []
  | row :: rest => (false, row) :: rest.map (true, ·)

/-- Fill one column of a matrix. -/
def fillColumn (direction : Direction) (m : Matrix) (col : Nat) : Filled :=
  match direction with
  | .down => fillRows col none (markTakers m)
  | .up =>
    let filled := fillRows col none (markTakers m).reverse
    ⟨filled.rows.reverse, filled.count⟩

/-- Fill columns one after the other. -/
def fillColumns (direction : Direction) (m : Matrix) (cols : List Nat) : Filled :=
  cols.foldl (fun acc col =>
    let filled := fillColumn direction acc.rows col
    ⟨filled.rows, acc.count + filled.count⟩) ⟨m, 0⟩

def applyFill (s : RunState) (columns : List String) (direction : Direction) :
    Except RunError Outcome :=
  match resolveNames s.headers s.width columns with
  | .error e => .error e
  | .ok r =>
    let filled := fillColumns direction s.matrix r.columns
    let description := "Filled " ++ toString filled.count ++ " empty cell(s) " ++ direction.word ++
      " in " ++ toString r.columns.length ++ " column(s)"
    .ok (.done (s.withMatrix filled.rows) description r.warnings)

end Sheetflow
