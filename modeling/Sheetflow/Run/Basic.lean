import Sheetflow.Run.Combine
import Sheetflow.Run.Delete
import Sheetflow.Run.Fill
import Sheetflow.Run.Replace
import Sheetflow.Run.Select

/-!
# Runs

A run applies rules from left to right, collecting descriptions and warnings. It ends early only when a
check of the number of columns says stop; then the output is empty and the last warning counts the
rules that were left out.
-/

namespace Sheetflow

/-- What a run gives. -/
structure RunResult where
  matrix : Matrix
  applied : List String
  warnings : List String
  rowCount : Nat
  columnCount : Nat
  aborted : Bool
  activeSheet : String
  /-- What was told to the operator. -/
  notices : List String
deriving DecidableEq

def Rule.apply (rule : Rule) (s : RunState) : Except RunError Outcome :=
  match rule.action with
  | .selectWorksheet choice value => applySelect s choice value
  | .validateColumns expected onMismatch => applyValidate s rule.id expected onMismatch
  | .unmergeAndFill columns direction => applyFill s columns direction
  | .deleteRows rows => applyDeleteRows s rows
  | .deleteColumns columns => applyDeleteColumns s columns
  | .combineWorksheets sources how => .ok (applyCombine s sources how)
  | .evaluateFormulas enabled => .ok (applyFormulas s enabled)
  | .replaceCharacters replacements => applyReplace s replacements

/-- A warning with the rule it comes from. -/
def Rule.label (rule : Rule) (warning : String) : String :=
  rule.action.tag ++ " (" ++ rule.id ++ "): " ++ warning

/-- A run in progress. -/
structure Progress where
  state : RunState
  applied : List String
  warnings : List String
  notices : List String

namespace Progress

def start (s : RunState) : Progress := ⟨s, [], [], []⟩

def add (p : Progress) (rule : Rule) (o : Outcome) : Progress :=
  ⟨o.state, p.applied ++ [o.description], p.warnings ++ o.warnings.map rule.label,
    p.notices ++ o.notice.toList⟩

/-- The result when all rules have been applied. -/
def finish (p : Progress) : RunResult :=
  { matrix := p.state.matrix, applied := p.applied, warnings := p.warnings,
    rowCount := p.state.matrix.length, columnCount := p.state.matrix.width, aborted := false,
    activeSheet := p.state.active, notices := p.notices }

/-- The warning that a run ended early. -/
def abortNotice (skipped : Nat) : String :=
  "run aborted on column validation failure; " ++ toString skipped ++
    " remaining rule(s) skipped and output emptied"

/-- The result when a rule ends the run and `skipped` rules are left. -/
def abort (p : Progress) (rule : Rule) (o : Outcome) (skipped : Nat) : RunResult :=
  { matrix := [], applied := p.applied,
    warnings := p.warnings ++ (o.warnings ++ [abortNotice skipped]).map rule.label,
    rowCount := 0, columnCount := 0, aborted := true, activeSheet := p.state.active,
    notices := p.notices ++ o.notice.toList }

def run (p : Progress) : List Rule → Except RunError RunResult
  | [] => .ok p.finish
  | rule :: rest =>
    match rule.apply p.state with
    | .error e => .error e
    | .ok o => if o.aborts then .ok (p.abort rule o rest.length) else (p.add rule o).run rest

end Progress

/-- Apply rules to a workbook, the first worksheet being active at the start. -/
def run (wb : Workbook) (rules : List Rule) : Except RunError RunResult :=
  match RunState.initial? wb with
  | none => .error .noWorksheets
  | some s => (Progress.start s).run rules

end Sheetflow
