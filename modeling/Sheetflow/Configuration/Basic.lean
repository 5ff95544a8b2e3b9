import Sheetflow.Csv.Encoding
import Sheetflow.Csv.Writer
import Sheetflow.Rule.Read
import Sheetflow.Time.Calendar

/-!
# Configurations

A configuration is a named list of rules that belongs to an organization, with the format in which
its output is written. It has a version, which counts how often it was stored, and can be inactive.
-/

namespace Sheetflow

/-- How output is written. -/
structure OutputFormat where
  delimiter : String := ","
  encoding : Csv.Encoding := .utf8
  includeHeaders : Bool := true
deriving DecidableEq, Repr, Inhabited

namespace OutputFormat

/-- The text of a matrix in this format. -/
def write (f : OutputFormat) (m : Matrix) : String := Csv.write f.delimiter f.includeHeaders m

def dump (f : OutputFormat) : Value :=
  .record
    [("type", .str "CSV"), ("delimiter", .str f.delimiter), ("encoding", .str f.encoding.name),
      ("includeHeaders", .bool f.includeHeaders)]

end OutputFormat

structure Configuration where
  id : String
  organization : String
  name : String
  description : Option String
  rules : List Rule
  output : OutputFormat
  version : Int
  active : Bool
  createdAt : Option DateTime
  updatedAt : Option DateTime
deriving DecidableEq, Repr

namespace Value

/-- A text that may be missing. -/
def ofText? : Option String → Value
  | some s => .str s
  | none => .null

/-- A time as documents store it. -/
def ofTime (t : DateTime) : Value := .str t.storedText

def ofTime? : Option DateTime → Value
  | some t => ofTime t
  | none => .null

end Value

namespace Configuration

/-- The stored form, in which what is missing is null. -/
def dump (c : Configuration) : Value :=
  .record
    [("id", .str c.id), ("organizationId", .str c.organization), ("name", .str c.name),
      ("description", .ofText? c.description), ("rules", .list (c.rules.map (Rule.dump true))),
      ("outputFormat", c.output.dump), ("version", .int c.version), ("isActive", .bool c.active),
      ("createdAt", .ofTime? c.createdAt), ("updatedAt", .ofTime? c.updatedAt)]

/-- The portable form: what makes up a configuration wherever it is kept. -/
def exported (c : Configuration) : Value :=
  .record
    ([("name", .str c.name)] ++ whenGiven false "description" .str c.description ++
      [("rules", .list (c.rules.map (Rule.dump false))), ("outputFormat", c.output.dump)])

end Configuration

end Sheetflow
