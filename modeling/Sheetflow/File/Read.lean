import Sheetflow.Csv.Reader
import Sheetflow.File.Name
import Sheetflow.Host
import Sheetflow.Run.State

/-!
# Reading workbooks

A file is read by the suffix of its name: as a spreadsheet, or as comma-separated text, which makes a
workbook of one worksheet named after the file. Text is UTF-8, or else one byte is one character.
-/

namespace Sheetflow

structure File where
  contents : Bytes

/-- Why a file gives no workbook. -/
inductive ReadError where
  /-- There is no spreadsheet in the bytes. -/
  | unreadable (problem : String)
  | unsupported (shown : String)
  | noWorksheets
  | field (e : Csv.FieldTooLong)
deriving DecidableEq

def ReadError.message : ReadError → String
  | .unreadable problem => "Unable to read workbook: " ++ problem
  | .unsupported shown => "Unsupported file type '" ++ shown ++ "'"
  | .noWorksheets => "Workbook contains no worksheets"
  | .field e => e.message

namespace File

/-- The text that bytes stand for. -/
def textOf (bs : Bytes) : List Char :=
  match Text.Utf8.decodeMarked bs with
  | .ok cs => cs
  | .error _ => Text.Utf8.decodeLatin1 bs

/-- One worksheet of comma-separated text. -/
def readDelimited (bs : Bytes) (sheet : String) : Except Csv.FieldTooLong Workbook :=
  (Csv.read (textOf bs)).map fun m => [(sheet, m)]

variable [Host]

/-- The worksheets of a spreadsheet; of two with the same title the later one counts. -/
def readSpreadsheet (bs : Bytes) (values : Bool) : Except ReadError Workbook :=
  match Host.load bs values with
  | .ok sheets => .ok (.ofList (sheets.map fun s => (s.title, s.matrix)))
  | .error problem => .error (.unreadable problem)

/-- Read a file by its name; `values` asks for the values of formulas. -/
def readWorkbook (file : File) (name : String) (values : Bool) : Except ReadError Workbook :=
  match FileName.kind? name with
  | none =>
    .error (.unsupported (if FileName.suffix name = "" then name else FileName.suffix name))
  | some .delimited =>
    let stem := FileName.stem name
    (readDelimited file.contents (if stem = "" then "Sheet1" else stem)).mapError .field
  | some .spreadsheet =>
    match readSpreadsheet file.contents values with
    | .error e => .error e
    | .ok [] => .error .noWorksheets
    | .ok wb => .ok wb

end File

end Sheetflow
