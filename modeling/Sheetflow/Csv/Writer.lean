import Sheetflow.Matrix
import Sheetflow.Text.Search

/-!
# Writing delimited text

Fields are joined by a delimiter and rows by line feeds. A field is quoted when it contains the
delimiter, a quote or a line break; a quote inside it is written twice.
-/

namespace Sheetflow.Csv

/-- Every quote twice. -/
def doubleQuotes : List Char → List Char
  | [] => []
  | c :: cs => if c = '"' then '"' :: '"' :: doubleQuotes cs else c :: doubleQuotes cs

/-- Must the text stand in quotes? -/
def needsQuotes (delimiter text : List Char) : Bool :=
  Text.occursIn delimiter text || text.contains '"' || text.contains '\n' || text.contains '\r'

def field (delimiter text : List Char) : List Char :=
  if needsQuotes delimiter text then '"' :: (doubleQuotes text ++ ['"']) else text

/-- The pieces one after the other with `sep` between them. -/
def join (sep : List Char) : List (List Char) → List Char
  | [] => []
  | [x] => x
  | x :: y :: rest => x ++ sep ++ join sep (y :: rest)

def line (delimiter : List Char) (row : Row) : List Char :=
  join delimiter (row.map fun c => field delimiter c.toText.toList)

/-- The text of a cell as a field. -/
def escapeField (delimiter : String) (c : Cell) : String :=
  String.ofList (field delimiter.toList c.toText.toList)

/-- The rows of a matrix as lines, the first left out unless headers are wanted. -/
def write (delimiter : String) (headers : Bool) (m : Matrix) : String :=
  let rows := if headers then m else m.drop 1
  String.ofList (join ['\n'] (rows.map (line delimiter.toList)))

end Sheetflow.Csv
