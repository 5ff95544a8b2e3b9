import Sheetflow.Pattern.Match
import Sheetflow.Rule.Basic
import Sheetflow.Run.Outcome
import Sheetflow.Text.Search

/-!
# Deleting rows and columns

Rows are deleted by number or by a condition on their cells; a condition never looks at the first
row. Columns are deleted from every row as far as the row reaches.
-/

namespace Sheetflow

/-- The rows whose index is not among the given ones; the first row has index `i`. -/
def dropRows (doomed : List Nat) (i : Nat) : List Row → List Row
  | [] => []
  | row :: rest =>
    if i ∈ doomed then dropRows doomed (i + 1) rest else row :: dropRows doomed (i + 1) rest

/-- The cells a condition looks at: those of the row, or the one in a column. -/
def conditionCells (column : Option Nat) (row : Row) : List Cell :=
  match column with
  | some i => [row.cell i]
  | none => row

/-- What a condition comes to in a state: a test of rows, or nothing if it cannot hold. -/
structure Matching where
  test : Option (Row → Bool)
  warnings : List String

def rowTest (test : RowTest) (column : Option Nat) : Except RunError Matching :=
  match test with
  | .blank _ => .ok ⟨some fun row => (conditionCells column row).all Cell.isBlank, []⟩
  | .contains needle =>
    .ok ⟨some fun row => (conditionCells column row).any fun c => Text.contains c.toText needle, []⟩
  | .pattern source =>
    match readPattern source with
    | .error e => .error e
    | .ok (.error message) =>
      .ok ⟨none, ["Invalid row pattern \"" ++ source ++ "\": " ++ message]⟩
    | .ok (.ok node) =>
      .ok ⟨some fun row => (conditionCells column row).any fun c => node.search c.toText, []⟩

/-- The column of a condition, if it names one. -/
def RowCondition.columnName? (c : RowCondition) : Option String := c.column.filter (· ≠ "")

def matching (s : RunState) (c : RowCondition) : Except RunError Matching :=
  match c.columnName? with
  | none => rowTest c.test none
  | some name =>
    match resolveNames s.headers s.width [name] with
    | .error e => .error e
    | .ok r =>
      match r.columns with
      | [] => .ok ⟨none, r.warnings⟩
      | column :: _ => (rowTest c.test (some column)).map fun m => ⟨m.test, r.warnings ++ m.warnings⟩

/-- Delete the rows behind the first that pass a test. -/
def deleteMatching (test : Row → Bool) : Matrix → Matrix
  | [] => []
  | first :: rest => first :: rest.filter fun row => !test row

def applyDeleteRows (s : RunState) : RowSelection → Except RunError Outcome
  | .byNumber rows _ =>
    let doomed := rowIndices (rows.map Int.ofNat) s.matrix.length
    .ok (.done (s.withMatrix (dropRows doomed 0 s.matrix))
      ("Deleted " ++ toString doomed.length ++ " row(s) by row number") [])
  | .byCondition c _ =>
    match matching s c with
    | .error e => .error e
    | .ok m =>
      match m.test, s.matrix with
      | some test, first :: rest =>
        let removed := (rest.filter test).length
        let place := match c.columnName? with
          | some name => " in column \"" ++ name ++ "\""
          | none => ""
        .ok (.done (s.withMatrix (deleteMatching test (first :: rest)))
          ("Deleted " ++ toString removed ++ " row(s) matching " ++ c.test.word ++ " condition" ++ place)
          m.warnings)
      | _, _ =>
        .ok (.done s ("Deleted 0 row(s) matching " ++ c.test.word ++ " condition") m.warnings)

/-- The cells whose index is not among the given ones; the first cell has index `i`. -/
def dropCells (doomed : List Nat) (i : Nat) : Row → Row
  | [] => []
  | c :: rest =>
    if i ∈ doomed then dropCells doomed (i + 1) rest else c :: dropCells doomed (i + 1) rest

def applyDeleteColumns (s : RunState) (columns : List String) : Except RunError Outcome :=
  match resolveNames s.headers s.width columns with
  | .error e => .error e
  | .ok r =>
    if r.columns.isEmpty then .ok (.done s "Deleted 0 column(s)" r.warnings)
    else
      .ok (.done (s.withMatrix (s.matrix.map (dropCells r.columns 0)))
        ("Deleted " ++ toString r.columns.length ++ " column(s)") r.warnings)

end Sheetflow
