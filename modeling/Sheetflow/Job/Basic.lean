import Sheetflow.Configuration.Read
import Sheetflow.Job.Status

/-!
# Jobs

A job is one application of a configuration to one file. Its record is created once; after that only
its status and what comes with a change of status are set.
-/

namespace Sheetflow

open Sheetflow.Field

structure Job where
  id : String
  organization : String
  configuration : String
  status : JobStatus
  fileName : Option String
  fileSize : Option Int
  createdAt : DateTime
  startedAt : Option DateTime
  completedAt : Option DateTime
  errorMessage : Option String
  outputRef : Option String
  /-- What was done, as a map. -/
  log : Option Value
  callbackUrl : Option String
  uid : Option String

/-- A new value for one field of a job. -/
inductive JobField where
  | id (s : String)
  | organization (s : String)
  | configuration (s : String)
  | status (s : JobStatus)
  | fileName (s : Option String)
  | fileSize (n : Option Int)
  | createdAt (t : DateTime)
  | startedAt (t : Option DateTime)
  | completedAt (t : Option DateTime)
  | errorMessage (s : Option String)
  | outputRef (s : Option String)
  | log (v : Option Value)
  | callbackUrl (s : Option String)
  | uid (s : Option String)

namespace Job

def set (j : Job) : JobField → Job
  | .id s => { j with id := s }
  | .organization s => { j with organization := s }
  | .configuration s => { j with configuration := s }
  | .status s => { j with status := s }
  | .fileName s => { j with fileName := s }
  | .fileSize n => { j with fileSize := n }
  | .createdAt t => { j with createdAt := t }
  | .startedAt t => { j with startedAt := t }
  | .completedAt t => { j with completedAt := t }
  | .errorMessage s => { j with errorMessage := s }
  | .outputRef s => { j with outputRef := s }
  | .log v => { j with log := v }
  | .callbackUrl s => { j with callbackUrl := s }
  | .uid s => { j with uid := s }

/-- Set fields one after the other. -/
def setAll (j : Job) (fields : List JobField) : Job := fields.foldl set j

end Job

namespace JobField

def isStart : JobField → Bool
  | .startedAt _ => true
  | _ => false

def isEnd : JobField → Bool
  | .completedAt _ => true
  | _ => false

end JobField

namespace Job

/-- The fields set when a job moves to `target` at the time `now`: those given, the status, and the
times of start and end unless they are among those given. -/
def moveFields (j : Job) (target : JobStatus) (now : DateTime) (fields : List JobField) : List JobField :=
  fields ++ [.status target] ++
    (if target = .processing ∧ j.startedAt.isNone ∧ ¬ fields.any JobField.isStart then
      [.startedAt (some now)] else []) ++
    (if target.isTerminal ∧ ¬ fields.any JobField.isEnd then [.completedAt (some now)] else [])

/-- The job after a move. -/
def moved (j : Job) (target : JobStatus) (now : DateTime) (fields : List JobField) : Job :=
  j.setAll (j.moveFields target now fields)

end Job

namespace Field

/-- A word for a status. -/
def jobStatus : FieldReader JobStatus := fun v =>
  match v with
  | .str s =>
    match JobStatus.ofWord? s with
    | some t => .valid t
    | none => .fail (.notAStatus (JobStatus.all.map JobStatus.word))
  | _ => .fail (.notAStatus (JobStatus.all.map JobStatus.word))

/-- Any map. -/
def anyMap : FieldReader Value
  | .map es => .valid (.map es)
  | _ => .fail .notADictionary

end Field

namespace Job

def read : FieldReader Job :=
  model "JobModel" fun es =>
    (((required es ["id"] text).map Job.mk).apply (required es ["organization_id"] text)
      |>.apply (required es ["configuration_id"] text)
      |>.apply (required es ["status"] jobStatus)
      |>.apply (withDefault es ["file_name"] none (optional text))
      |>.apply (withDefault es ["file_size"] none (optional integer))
      |>.apply (required es ["created_at"] dateTime)
      |>.apply (withDefault es ["started_at"] none (optional dateTime))
      |>.apply (withDefault es ["completed_at"] none (optional dateTime))
      |>.apply (withDefault es ["error_message"] none (optional text))
      |>.apply (withDefault es ["output_ref"] none (optional text))
      |>.apply (withDefault es ["execution_log"] none (optional anyMap))
      |>.apply (withDefault es ["callback_url"] none (optional text))
      |>.apply (withDefault es ["uid"] none (optional text)))

/-- The stored form. -/
def dump (j : Job) : Value :=
  .record
    [("id", .str j.id), ("organization_id", .str j.organization),
      ("configuration_id", .str j.configuration), ("status", .str j.status.word),
      ("file_name", .ofText? j.fileName), ("file_size", (j.fileSize.map Value.int).getD .null),
      ("created_at", .ofTime j.createdAt), ("started_at", .ofTime? j.startedAt),
      ("completed_at", .ofTime? j.completedAt), ("error_message", .ofText? j.errorMessage),
      ("output_ref", .ofText? j.outputRef), ("execution_log", j.log.getD .null),
      ("callback_url", .ofText? j.callbackUrl), ("uid", .ofText? j.uid)]

end Job

namespace JobField

/-- A field by its stored name. -/
def reader? : String → Option (FieldReader JobField)
  | "id" => some fun v => (text v).map id
  | "organization_id" => some fun v => (text v).map organization
  | "configuration_id" => some fun v => (text v).map configuration
  | "status" => some fun v => (jobStatus v).map status
  | "file_name" => some fun v => (optional text v).map fileName
  | "file_size" => some fun v => (optional integer v).map fileSize
  | "created_at" => some fun v => (dateTime v).map createdAt
  | "started_at" => some fun v => (optional dateTime v).map startedAt
  | "completed_at" => some fun v => (optional dateTime v).map completedAt
  | "error_message" => some fun v => (optional text v).map errorMessage
  | "output_ref" => some fun v => (optional text v).map outputRef
  | "execution_log" => some fun v => (optional anyMap v).map log
  | "callback_url" => some fun v => (optional text v).map callbackUrl
  | "uid" => some fun v => (optional text v).map uid
  | _ => none

/-- The fields that a map sets; other entries count for nothing. -/
def readAll (es : List (Value × Value)) : List JobField :=
  es.filterMap fun (k, v) =>
    match k with
    | .str name =>
      match reader? name with
      | some read =>
        match read v with
        | .valid field => some field
        | .invalid _ => none
      | none => none
    | _ => none

end JobField

end Sheetflow
