import Sheetflow.Matrix
import Sheetflow.Text.Case

/-!
# Header texts

The first row of a matrix names its columns. Header texts are compared trimmed and in lower case,
blank headers name nothing, and of equal headers the first counts.
-/

namespace Sheetflow

/-- The form in which header texts are compared. -/
def normalText (s : String) : String := Text.lower (Text.trim s)

/-- The text by which a header cell is found. -/
def Cell.key (c : Cell) : String := normalText c.toText

/-- Columns by header text, in the order of the columns. -/
abbrev Headers := List (String × Nat)

namespace Headers

def find? (hs : Headers) (key : String) : Option Nat := hs.lookup key

/-- Add a header unless its text is taken. -/
def insertNew (hs : Headers) (key : String) (i : Nat) : Headers :=
  if (hs.find? key).isSome then hs else hs ++ [(key, i)]

/-- The headers of a row of which the first cell stands in column `i`. -/
def addRow (hs : Headers) (i : Nat) : Row → Headers
  | [] => hs
  | c :: row => addRow (if c.isBlank then hs else hs.insertNew c.key i) (i + 1) row

def ofMatrix (m : Matrix) : Headers := addRow [] 0 (m.head?.getD [])

end Headers

end Sheetflow
