import Sheetflow.Column.Reference
import Sheetflow.Pattern.Match
import Sheetflow.Pattern.Read
import Sheetflow.Run.State

/-!
# Outcomes of rules

Applying a rule gives the next state, a description of what was done, and warnings. Data that does not
fit a rule only causes warnings; the few ways a run fails outright are listed in `RunError`.
-/

namespace Sheetflow

/-- Why a run ends without a result. -/
inductive RunError where
  | noWorksheets
  | numeralTooLong (e : NumeralTooLong)
  | numberTooLong
  | repetitionTooLarge
  | incompatiblePatternFlags
deriving DecidableEq

def RunError.message : RunError → String
  | .noWorksheets => "At least one worksheet is required"
  | .numeralTooLong e => e.message
  | .numberTooLong => "Exceeds the limit (" ++ toString digitLimit ++
      " digits) for integer string conversion; use sys.set_int_max_str_digits() to increase the limit"
  | .repetitionTooLarge => "the repetition number is too large"
  | .incompatiblePatternFlags => "ASCII and UNICODE flags are incompatible"

structure Outcome where
  state : RunState
  description : String
  warnings : List String
  /-- Does the run end here, without output? -/
  aborts : Bool
  /-- What is told to the operator. -/
  notice : Option String

namespace Outcome

/-- The rule did something. -/
def done (state : RunState) (description : String) (warnings : List String) : Outcome :=
  ⟨state, description, warnings, false, none⟩

end Outcome

/-- Columns by name in a matrix, the header texts given. -/
def resolveNames (headers : Headers) (width : Nat) (names : List String) :
    Except RunError ColumnRef.Resolution :=
  (ColumnRef.resolveAll headers width (names.map .text)).mapError .numeralTooLong

/-- Read a pattern. A text that is none gives its warning. -/
def readPattern (source : String) : Except RunError (Except String Pattern.Node) :=
  match Pattern.read source with
  | .ok node => .ok (.ok node)
  | .error (.fault f) => .ok (.error (f.message source))
  | .error .repetitionTooLarge => .error .repetitionTooLarge
  | .error (.numeral e) => .error (.numeralTooLong e)
  | .error .asciiAndUnicode => .error .incompatiblePatternFlags

end Sheetflow
