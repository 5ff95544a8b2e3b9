import Sheetflow.Configuration.Basic
import Sheetflow.File.Read
import Sheetflow.Run.Basic

/-!
# Transforming files

A configuration is applied to a file by reading the file and running the rules on its worksheets.
-/

namespace Sheetflow

/-- Why a file could not be transformed. -/
inductive TransformError where
  | read (e : ReadError)
  | run (e : RunError)
deriving DecidableEq

def TransformError.message : TransformError → String
  | .read e => e.message
  | .run e => e.message

namespace Configuration

/-- Read a file and apply the rules. -/
def transform [Host] (c : Configuration) (file : File) (name : String) : Except TransformError RunResult :=
  match file.readWorkbook name (formulasRequested c.rules) with
  | .error e => .error (.read e)
  | .ok wb => (run wb c.rules).mapError .run

/-- The text of a matrix in the format of the configuration, and its bytes. -/
def outputText (c : Configuration) (m : Matrix) : String := c.output.write m

def outputBytes (c : Configuration) (m : Matrix) : Csv.Encoding.Encoded :=
  c.output.encoding.encode (c.outputText m).toList

end Configuration

end Sheetflow
