import Sheetflow.Rule.Basic
import Sheetflow.Run.Outcome

/-!
# Selecting worksheets and checking their columns
-/

namespace Sheetflow

/-- The worksheet that a choice leads to, if any, and warnings. -/
def chooseSheet (names : List String) (choice : SheetChoice) (value : String) :
    Except RunError (Option String × List String) :=
  match choice with
  | .name => .ok (if value ∈ names then some value else none, [])
  | .index =>
    .ok (match Numeral.readInt (Text.trim value).toList with
      | .value i => if 0 ≤ i then names[i.toNat]? else none
      | _ => none, [])
  | .pattern =>
    match readPattern value with
    | .error e => .error e
    | .ok (.error message) => .ok (none, ["Invalid worksheet pattern \"" ++ value ++ "\": " ++ message])
    | .ok (.ok node) => .ok (names.find? node.search, [])

def applySelect (s : RunState) (choice : SheetChoice) (value : String) : Except RunError Outcome :=
  match chooseSheet s.sheets.names choice value with
  | .error e => .error e
  | .ok (target, warnings) =>
    match target.bind fun name => (s.select? name).map (name, ·) with
    | some (name, state) => .ok (.done state ("Selected worksheet \"" ++ name ++ "\"") warnings)
    | none =>
      let warning := "No worksheet matches " ++ choice.word ++ " \"" ++ value ++ "\"; keeping \"" ++
        s.active ++ "\" (available: " ++ String.intercalate ", " s.sheets.names ++ ")"
      .ok (.done s ("Worksheet selection skipped, still on \"" ++ s.active ++ "\"")
        (warnings ++ [warning]))

/-- The warning about a number of columns that is not the expected one. -/
def mismatchMessage (expected actual : Nat) : String :=
  "Column count mismatch: expected " ++ toString expected ++ ", found " ++ toString actual

def applyValidate (s : RunState) (ruleId : String) (expected : Nat) (onMismatch : OnMismatch) :
    Except RunError Outcome :=
  let actual := s.matrix.headerWidth
  let message := mismatchMessage expected actual
  if actual = expected then
    .ok (.done s ("Validated column count: " ++ toString actual ++ " column(s)") [])
  else if isWritable expected then
    .ok (match onMismatch with
      | .stop => ⟨s, message, [message], true, none⟩
      | .notify =>
        ⟨s, "Validated column count (notify on mismatch): " ++ message, [message], false,
          some (message ++ " in worksheet '" ++ s.active ++ "' (rule " ++ ruleId ++ ")")⟩
      | .continue_ =>
        .done s ("Validated column count (continue on mismatch): " ++ message) [message])
  else .error .numberTooLong

def applyFormulas (s : RunState) (enabled : Bool) : Outcome :=
  .done s (if enabled then "Formula evaluation enabled (computed values used)"
    else "Formula evaluation disabled (formula text kept)") []

end Sheetflow
