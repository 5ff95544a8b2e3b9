import Sheetflow.Configuration.Document
import Sheetflow.Service.Configurations
import Sheetflow.Transform
import Sheetflow.Web.Parameter

/-!
# Configurations on the web

Configurations are imported from documents, listed, shown, exported, deactivated, and tried out on a
file without leaving a trace.
-/

namespace Sheetflow.Web.Configurations

open Service

variable [Host]

/-- A configuration in short. -/
def summary (c : Configuration) : Value :=
  .record
    [("id", .str c.id), ("name", .str c.name), ("description", .ofText? c.description),
      ("version", .int c.version), ("is_active", .bool c.active), ("rule_count", .int c.rules.length)]

/-- What is said when a configuration was imported. -/
def imported (c : Configuration) : Value :=
  let count := c.rules.length
  .record
    [("id", .str c.id), ("name", .str c.name), ("version", .int c.version), ("rule_count", .int count),
      ("message", .str ("Configuration imported with " ++ toString count ++ " rule(s)"))]

/-- The document in a request: the file of a form, or else the body. -/
def source (r : Request) : Except Response (Document.Source × Option String) :=
  match r.body with
  | .bytes bs => .ok (.bytes bs, none)
  | .fields fs => .ok (.bytes (Body.encodeFields fs), none)
  | .parts _ _ =>
    match r.body.formValue? "file" with
    | some (.upload u) => .ok (.bytes u.file.contents, some u.name)
    | _ => .error (.refusal 400 (.str "Multipart import requires a 'file' field"))

/-- The configuration of a document, without an id. -/
def read (org : String) (source : Document.Source) (name : Option String) :
    Except ServiceError Configuration := do
  let doc ← (Document.decode source name).mapError .ofDecoding
  (Document.parse ⟨org, "", 1⟩ doc).mapError .badDocument

/-- The id to import under: the one asked for, or a new one. -/
def idFor (wanted : Option String) : Service String := do
  match wanted with
  | some id => if id = "" then freshId .configuration else return id
  | none => freshId .configuration

/-- Store a configuration that was read. -/
def store (wanted : Option String) (c : Configuration) : Service Response := do
  let id ← idFor wanted
  match ← attempt (Sheetflow.Configurations.save { c with id }) with
  | .ok stored => return .json 200 (imported stored)
  | .error (.foreignConfiguration id) =>
    return .refusal 403 (.str (ServiceError.foreignConfiguration id).message)
  | .error e => throw e

/-- An error as a response, if callers are told about its kind. -/
def reported (e : ServiceError) : Service Response :=
  match e.kind? with
  | some kind => return .ofError kind e
  | none => throw e

def importDocument (r : Request) : Service Response := do
  match accept r (Parameter.ofQuery r "configuration_id" (Field.optional Field.text) none) with
  | .error refused => return refused
  | .ok (org, wanted) =>
    match source r with
    | .error refused => return refused
    | .ok (source, name) =>
      match read org source name with
      | .ok c => store wanted c
      | .error e => reported e

def list (r : Request) : Service Response := do
  match accept r (Parameter.ofQuery r "include_inactive" Field.boolean false) with
  | .error refused => return refused
  | .ok (org, inactive) =>
    return .json 200 (.list ((← Sheetflow.Configurations.list org inactive).map summary))

/-- The response when there is no such configuration. -/
def notFound (id : String) : Response :=
  .ofError .noConfiguration (.noConfiguration id)

/-- Show something of a configuration, which need not be active. -/
def view (r : Request) (id : String) (shown : Configuration → Value) : Service Response := do
  match accept r (.ok ()) with
  | .error refused => return refused
  | .ok (org, ()) =>
    match ← Sheetflow.Configurations.find? org id true with
    | some c => return .json 200 (shown c)
    | none => return notFound id

def deactivate (r : Request) (id : String) : Service Response := do
  match accept r (.ok ()) with
  | .error refused => return refused
  | .ok (org, ()) =>
    if ← Sheetflow.Configurations.deactivate org id then
      return .json 200 (.record [("id", .str id), ("is_active", .bool false)])
    else return notFound id

def cellValue : Cell → Value
  | .empty => .null
  | .text s => .str s
  | .int i => .int i
  | .float x => .float x
  | .bool b => .bool b

/-- The start of a result, up to a number of rows. -/
def preview (limit : Int) (r : RunResult) : Value :=
  .record
    [("active_sheet", .str r.activeSheet),
      ("rows", .list ((r.matrix.take limit.toNat).map fun row => .list (row.map cellValue))),
      ("row_count", .int r.rowCount), ("col_count", .int r.columnCount),
      ("applied", Value.texts r.applied), ("warnings", Value.texts r.warnings),
      ("aborted", .bool r.aborted)]

/-- The name of a file that is tried out; one without a name is taken for a spreadsheet. -/
def nameOf (u : Upload) : String := if u.name = "" then "upload.xlsx" else u.name

/-- Try out a configuration on a file. -/
def tryOut (r : Request) (id : String) : Service Response := do
  let parameters := Parameter.both
    (Parameter.ofQuery r "limit" (Parameter.integerBetween 1 1000) 50) (Parameter.upload r "file")
  match accept r parameters with
  | .error refused => return refused
  | .ok (org, limit, upload) =>
    match ← Sheetflow.Configurations.find? org id false with
    | none => return notFound id
    | some c =>
      match c.transform upload.file (nameOf upload) with
      | .ok result => return .json 200 (preview limit result)
      | .error e => reported (.transform e)

end Sheetflow.Web.Configurations
