/-!
# Rules

A rule has an id, which messages name, and an action of one of eight kinds. Actions carry checked
parameters only: a condition on contents has a text to look for, and rows are selected either by
number or by condition. Parameters that an action does not use are kept where the written form of a
rule shows them.
-/

namespace Sheetflow

/-- How a worksheet is chosen. -/
inductive SheetChoice where
  | name
  | pattern
  | index
deriving DecidableEq, Repr

/-- What happens when the number of columns is not the expected one. -/
inductive OnMismatch where
  | stop
  | notify
  | continue_
deriving DecidableEq, Repr

inductive Direction where
  | up
  | down
deriving DecidableEq, Repr

/-- What a row is tested for. -/
inductive RowTest where
  /-- The cells are blank; `unused` is a text that the test does not look at. -/
  | blank (unused : Option String)
  | contains (needle : String)
  | pattern (source : String)
deriving DecidableEq, Repr

/-- A test of the cells of a row, or of the one in a column. -/
structure RowCondition where
  test : RowTest
  column : Option String
deriving DecidableEq, Repr

/-- Which rows are deleted. -/
inductive RowSelection where
  | byNumber (rows : List Nat) (unused : Option RowCondition)
  | byCondition (condition : RowCondition) (unused : Option (List Nat))
deriving DecidableEq, Repr

/-- How worksheets are combined. -/
inductive Combination where
  | append
  | merge
deriving DecidableEq, Repr

inductive Scope where
  | everywhere
  | columns
  | rows
deriving DecidableEq, Repr

/-- The replacement of a text, in all cells, in the cells of columns or in the cells of rows. -/
structure Replacement where
  find : String
  replace : String
  scope : Scope
  columns : Option (List String)
  rows : Option (List Nat)
deriving DecidableEq, Repr

inductive Action where
  | selectWorksheet (choice : SheetChoice) (value : String)
  | validateColumns (expected : Nat) (onMismatch : OnMismatch)
  | unmergeAndFill (columns : List String) (direction : Direction)
  | deleteRows (rows : RowSelection)
  | deleteColumns (columns : List String)
  | combineWorksheets (sources : List String) (how : Combination)
  | evaluateFormulas (enabled : Bool)
  | replaceCharacters (replacements : List Replacement)
deriving DecidableEq, Repr

structure Rule where
  id : String
  action : Action
deriving DecidableEq, Repr

namespace SheetChoice

def word : SheetChoice → String
  | .name => "name"
  | .pattern => "pattern"
  | .index => "index"

end SheetChoice

namespace OnMismatch

def word : OnMismatch → String
  | .stop => "stop"
  | .notify => "notify"
  | .continue_ => "continue"

end OnMismatch

namespace Direction

def word : Direction → String
  | .up => "up"
  | .down => "down"

end Direction

namespace RowTest

def word : RowTest → String
  | .blank _ => "empty"
  | .contains _ => "contains"
  | .pattern _ => "pattern"

end RowTest

namespace Combination

def word : Combination → String
  | .append => "append"
  | .merge => "merge"

end Combination

namespace Scope

def word : Scope → String
  | .everywhere => "all"
  | .columns => "specific_columns"
  | .rows => "specific_rows"

end Scope

namespace Action

/-- The name of a kind of action. -/
def tag : Action → String
  | .selectWorksheet _ _ => "SELECT_WORKSHEET"
  | .validateColumns _ _ => "VALIDATE_COLUMNS"
  | .unmergeAndFill _ _ => "UNMERGE_AND_FILL"
  | .deleteRows _ => "DELETE_ROWS"
  | .deleteColumns _ => "DELETE_COLUMNS"
  | .combineWorksheets _ _ => "COMBINE_WORKSHEETS"
  | .evaluateFormulas _ => "EVALUATE_FORMULAS"
  | .replaceCharacters _ => "REPLACE_CHARACTERS"

end Action

/-- Should formulas be read as their values? The last rule on formulas decides; without any, yes. -/
def formulasRequested (rules : List Rule) : Bool :=
  rules.foldl (fun requested rule =>
    match rule.action with
    | .evaluateFormulas enabled => enabled
    | _ => requested) true

end Sheetflow
