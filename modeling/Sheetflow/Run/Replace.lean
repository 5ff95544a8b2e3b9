import Sheetflow.Rule.Basic
import Sheetflow.Run.Outcome
import Sheetflow.Text.Search

/-!
# Replacing characters

The replacements of a rule are carried out one after the other on the whole matrix; each finds its
columns by the header texts as they are by then. A cell whose text a replacement changes becomes that
text, any other cell keeps its value.
-/

namespace Sheetflow

/-- The cells a replacement looks at. -/
inductive Targets where
  | everywhere
  | columns (indices : List Nat)
  | rows (indices : List Nat)

/-- Is the cell at row `i` and column `j` looked at? -/
def Targets.contains (i j : Nat) : Targets → Bool
  | .everywhere => true
  | .columns indices => indices.contains j
  | .rows indices => indices.contains i

/-- A matrix after replacements, with the number of changes and the warnings. -/
structure Replaced where
  matrix : Matrix
  changed : Nat
  warnings : List String

/-- The cell after a replacement; `none` if it stays what it was. -/
def replaceCell? (r : Replacement) (c : Cell) : Option Cell :=
  if c = .empty then none
  else
    let text := c.toText
    if Text.contains text r.find then
      let new := Text.replace r.find r.replace text
      if new = text then none else some (.text new)
    else none

def replaceInRow (r : Replacement) (targets : Targets) (i j : Nat) : Row → Row × Nat
  | [] => ([], 0)
  | c :: rest =>
    let (rest, changed) := replaceInRow r targets i (j + 1) rest
    match if targets.contains i j then replaceCell? r c else none with
    | some new => (new :: rest, changed + 1)
    | none => (c :: rest, changed)

def replaceInRows (r : Replacement) (targets : Targets) (i : Nat) : List Row → Matrix × Nat
  | [] => ([], 0)
  | row :: rest =>
    let (row, here) := replaceInRow r targets i 0 row
    let (rest, below) := replaceInRows r targets (i + 1) rest
    (row :: rest, here + below)

/-- The cells that a replacement looks at in a matrix, and warnings. -/
def Replacement.targets (r : Replacement) (m : Matrix) : Except RunError (Targets × List String) :=
  match r.scope with
  | .everywhere => .ok (.everywhere, [])
  | .columns =>
    (resolveNames (.ofMatrix m) m.width (r.columns.getD [])).map fun found =>
      (.columns found.columns, found.warnings)
  | .rows => .ok (.rows (rowIndices ((r.rows.getD []).map Int.ofNat) m.length), [])

def Replacement.apply (r : Replacement) (acc : Replaced) : Except RunError Replaced :=
  (r.targets acc.matrix).map fun (targets, warnings) =>
    let (m, changed) := replaceInRows r targets 0 acc.matrix
    ⟨m, acc.changed + changed, acc.warnings ++ warnings⟩

def replaceAll (acc : Replaced) : List Replacement → Except RunError Replaced
  | [] => .ok acc
  | r :: rest =>
    match r.apply acc with
    | .error e => .error e
    | .ok acc => replaceAll acc rest

def applyReplace (s : RunState) (replacements : List Replacement) : Except RunError Outcome :=
  (replaceAll ⟨s.matrix, 0, []⟩ replacements).map fun r =>
    .done (s.withMatrix r.matrix)
      ("Replaced characters in " ++ toString r.changed ++ " cell(s) using " ++
        toString replacements.length ++ " replacement(s)")
      r.warnings

end Sheetflow
