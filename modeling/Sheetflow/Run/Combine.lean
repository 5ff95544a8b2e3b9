import Sheetflow.Rule.Basic
import Sheetflow.Run.Outcome

/-!
# Combining worksheets

Appending puts the rows of other worksheets below the active one, leaving out a first row whose texts
are those of the active one's first row. Merging aligns columns by header: a column of a source goes
to the first column with the same header text that is not taken yet by that source, and gets a new
column at the end otherwise.
-/

namespace Sheetflow

def headerKeys (row : Row) : List String := row.map Cell.key

/-- The rows of a source that are appended below `base`. -/
def appendedRows (base source : Matrix) : List Row :=
  match base, source with
  | header :: _, first :: body => if headerKeys first = headerKeys header then body else source
  | _, _ => source

def appendSheets (base : Matrix) (sources : List Matrix) : Matrix :=
  base ++ sources.flatMap (appendedRows base)

/-- The header row of a merge in progress, and the first column of each header text. -/
structure MergeHeader where
  cells : Row
  positions : List (String × Nat)

namespace MergeHeader

/-- Note that a column has a header text, unless the text is empty or noted already. -/
def note (positions : List (String × Nat)) (key : String) (i : Nat) : List (String × Nat) :=
  if key = "" || (positions.lookup key).isSome then positions else positions ++ [(key, i)]

def notePositions (positions : List (String × Nat)) (i : Nat) : Row → List (String × Nat)
  | [] => positions
  | c :: rest => notePositions (note positions c.key i) (i + 1) rest

def ofRow (cells : Row) : MergeHeader := ⟨cells, notePositions [] 0 cells⟩

/-- Add a column at the end. -/
def addColumn (h : MergeHeader) (c : Cell) : MergeHeader × Nat :=
  (⟨h.cells ++ [c], note h.positions c.key h.cells.length⟩, h.cells.length)

/-- The column for a source column with header cell `c`, when the columns `taken` are not
available. -/
def place (h : MergeHeader) (taken : List Nat) (c : Cell) : MergeHeader × Nat :=
  match if c.key = "" then none else h.positions.lookup c.key with
  | some i => if i ∈ taken then h.addColumn c else (h, i)
  | none => h.addColumn c

/-- The columns for the columns of a source, given by its header cells. -/
def placeAll (h : MergeHeader) (taken : List Nat) : Row → MergeHeader × List Nat
  | [] => (h, taken)
  | c :: rest =>
    let (h, i) := h.place taken c
    h.placeAll (taken ++ [i]) rest

end MergeHeader

/-- A row of `width` cells in which the cells of a source row stand where `columns` says. -/
def scatter (width : Nat) (columns : List Nat) (row : Row) : Row :=
  (columns.zip row).foldl (fun acc p => acc.set p.1 p.2) (List.replicate width .empty)

/-- Add the rows of a source to a merge. -/
def mergeSource (acc : MergeHeader × List Row) (source : Matrix) : MergeHeader × List Row :=
  match source with
  | [] => acc
  | first :: body =>
    let (h, columns) := acc.1.placeAll [] (Row.pad (Matrix.width source) first)
    (h, acc.2 ++ body.map (scatter h.cells.length columns))

def mergeSheets (base : Matrix) (sources : List Matrix) : Matrix :=
  let header := Row.pad base.width (base.head?.getD [])
  let (h, rows) := sources.foldl mergeSource (MergeHeader.ofRow header, base.drop 1)
  h.cells :: rows.map (Row.pad h.cells.length)

/-- The worksheets to combine with the active one, each once, and a warning for each that is not
there. -/
def combineNames (s : RunState) (found : List String) : List String → List String × List String
  | [] => (found, [])
  | name :: rest =>
    if name ∉ s.sheets.names then
      let (found, warnings) := combineNames s found rest
      (found, ("Worksheet \"" ++ name ++ "\" not found") :: warnings)
    else if name ≠ s.active ∧ name ∉ found then combineNames s (found ++ [name]) rest
    else combineNames s found rest

def applyCombine (s : RunState) (sources : List String) (how : Combination) : Outcome :=
  let requested := if sources.isEmpty then s.selected else sources
  if requested.isEmpty then
    .done s "Combined 0 worksheet(s)" ["No source worksheets given and none previously selected"]
  else
    let (names, warnings) := combineNames s [] requested
    let matrices := names.filterMap s.sheets.sheet?
    let combined := match how with
      | .append => appendSheets s.matrix matrices
      | .merge => mergeSheets s.matrix matrices
    let description := "Combined " ++ toString names.length ++ " worksheet(s) into \"" ++ s.active ++
      "\" using " ++ how.word ++
      (if names.isEmpty then "" else ": " ++ String.intercalate ", " names)
    .done (s.withMatrix combined) description warnings

end Sheetflow
