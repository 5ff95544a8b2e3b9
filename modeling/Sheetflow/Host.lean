import Sheetflow.File.Spreadsheet
import Sheetflow.Text.Utf8

/-!
# What lies outside

Some of what happens is settled outside: how the bytes of a spreadsheet are taken apart, how much room
there is on the stack when a decoder goes down into a document, and where the outputs are kept. A
`Host` says how it is settled. Everything holds of any host; where one is needed, it is an instance.
-/

namespace Sheetflow

class Host where
  /-- The worksheets in the bytes of a spreadsheet, or what is wrong with these. With the flag a formula
  stands for its value that was computed last, and else for its own text. -/
  load : Bytes → Bool → Except String (List Worksheet)
  /-- How many lists and maps of JSON may lie in each other. -/
  jsonRoom : Nat
  jsonRoom_pos : 0 < jsonRoom
  /-- The same for YAML, where it depends on how a text is written. -/
  yamlRoom : List Char → Nat
  /-- The names on the way to the directory in which all outputs are. -/
  root : List String

/-- A host that knows no spreadsheets. -/
abbrev Host.bare : Host where
  load _ _ := .error "File is not a zip file"
  jsonRoom := 900
  jsonRoom_pos := by decide
  yamlRoom _ := 400
  root := ["outputs"]

end Sheetflow
