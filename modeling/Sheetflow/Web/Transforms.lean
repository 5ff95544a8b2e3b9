import Sheetflow.Service.Submission
import Sheetflow.Web.Configurations

/-!
# Transformations on the web

A file is handed in for transformation and answered at once or later; the state of jobs is asked for;
and outputs are downloaded by whoever has a token for them.
-/

namespace Sheetflow.Web.Transforms

open Service

variable [Host]

def statusAddress (id : String) : String := "/api/jobs/" ++ id

/-- The link of an answer and until when it is valid. -/
def linkFields : Option Outputs.Link → List (String × Value)
  | some l => [("download_url", .str l.address), ("expires_at", .ofTime l.expires)]
  | none => [("download_url", .null), ("expires_at", .null)]

/-! ### The state of jobs -/

/-- The link to the output of a job that has one. -/
def jobLink (s : Settings) (j : Job) : Service (Option Outputs.Link) := do
  match j.outputRef with
  | some ref =>
    if j.status = .completed ∧ ref ≠ "" then return some (← Outputs.link s ref s.asyncLifetime)
    else return none
  | none => return none

def jobValue (j : Job) (link : Option Outputs.Link) : Value :=
  .record
    ([("job_id", .str j.id), ("configuration_id", .str j.configuration), ("status", .str j.status.word),
      ("progress", .int j.status.progress), ("file_name", .ofText? j.fileName),
      ("created_at", .ofTime j.createdAt), ("started_at", .ofTime? j.startedAt),
      ("completed_at", .ofTime? j.completedAt), ("error_message", .ofText? j.errorMessage)] ++
    linkFields link ++ [("execution_log", j.log.getD .null)])

/-- The state of a job, with a fresh link to its output. -/
def showJob (s : Settings) (j : Job) : Service Value := do
  return jobValue j (← jobLink s j)

def listJobs (s : Settings) (r : Request) : Service Response := do
  match accept r (Parameter.ofQuery r "limit" Field.integer 50) with
  | .error refused => return refused
  | .ok (org, limit) =>
    let jobs ← Jobs.newest org limit
    return .json 200 (.list (← jobs.mapM (showJob s)))

def getJob (s : Settings) (r : Request) (id : String) : Service Response := do
  match accept r (.ok ()) with
  | .error refused => return refused
  | .ok (org, ()) =>
    match ← Jobs.find? id (some org) with
    | some j => return .json 200 (← showJob s j)
    | none => return .ofError .noJob (.noJob id)

/-! ### Handing in files -/

/-- The answer to a submission. -/
def answer (j : Job) (mode : Mode) (link : Option Outputs.Link) (output : Value)
    (applied warnings : Value) : Value :=
  .record
    ([("job_id", .str j.id), ("status", .str j.status.word), ("mode", .str mode.word),
      ("status_url", .str (statusAddress j.id))] ++ linkFields link ++
    [("csv_base64", output), ("applied", applied), ("warnings", warnings), ("error_message", .null)])

/-- A part of the log of a job, which may not have one. -/
def logPart (j : Job) (name : String) : Value :=
  ((j.log.getD .null).get? name).getD (.list [])

/-- The answer when a job was queued, or could not be. -/
def queued (j : Job) : Response :=
  if j.status = .failed then
    .refusal 503 (.record
      [("code", .str "QUEUE_UNAVAILABLE"), ("job_id", .str j.id), ("message", .ofText? j.errorMessage)])
  else .json 202 (answer j .queued none .null (.list []) (.list []))

/-- What is said about a job that failed. -/
def failed (j : Job) : Response :=
  .refusal 422 (.record
    [("code", .str "TRANSFORMATION_FAILED"), ("job_id", .str j.id), ("message", .ofText? j.errorMessage),
      ("applied", logPart j "applied"), ("warnings", logPart j "warnings")])

/-- The answer with the output of a completed job. -/
def completed (s : Settings) (j : Job) : Service Response := do
  let ref := j.outputRef.getD ""
  let link ← Outputs.link s ref s.syncLifetime
  match ← attempt (Outputs.read ref) with
  | .ok bs =>
    return .json 200 (answer j .sync (some link) (.str (Text.Base64.encode bs)) (logPart j "applied")
      (logPart j "warnings"))
  | .error (.storage e) => return .ofError .storage (.storage e)
  | .error e => throw e

/-- The parameters of a submission, except for the organization. -/
def parameters (r : Request) :
    Parameter (Upload × String × Bool × Option String × Option String) :=
  Parameter.both (Parameter.upload r "file") <|
    Parameter.both (Parameter.required "config_id" (Parameter.ofForm r "config_id" Field.text)) <|
      Parameter.both ((Parameter.ofForm r "async" Field.boolean).map (·.getD false)) <|
        Parameter.both (Parameter.ofForm r "callback_url" Field.text)
          (Parameter.ofForm r "uid" Field.text)

def submit (s : Settings) (r : Request) : Service Response := do
  match accept r (parameters r) with
  | .error refused => return refused
  | .ok (org, upload, configuration, async, callbackUrl, uid) =>
    if upload.name = "" then return .refusal 400 (.str "Uploaded file has no name")
    let submission : Submission :=
      { organization := org, configuration, file := upload.file, fileName := upload.name, async
        callbackUrl, uid }
    match ← attempt (submission.submit s) with
    | .error e => Configurations.reported e
    | .ok submitted =>
      let j := submitted.outcome.job
      match submitted.mode with
      | .queued => return queued j
      | .sync => if j.status = .completed then completed s j else return failed j

/-! ### Downloads -/

/-- A name can only be sent if each character is one byte. -/
def isSendable (name : String) : Bool := name.toList.all fun c => c.toNat < 256

/-- The response that sends an output. -/
def sent (ref : String) (bs : Bytes) : Response :=
  let name := FileName.base ref
  if isSendable name then
    { status := 200
      content := .data (if name.endsWith ".tsv" then "text/tab-separated-values" else "text/csv") bs
      disposition := some ("attachment; filename=\"" ++ name ++ "\"") }
  else .internalError

/-- Send the output that a token stands for. -/
def download (s : Settings) (token : String) : Service Response := do
  match ← attempt (Outputs.verify s token) with
  | .error (.storage e) => return .refusal 403 (ServiceError.detail .storage (.storage e))
  | .error e => throw e
  | .ok ref =>
    match ← attempt (Outputs.read ref) with
    | .ok bs => return sent ref bs
    | .error (.storage e) => return .refusal 404 (ServiceError.detail .storage (.storage e))
    | .error e => throw e

end Sheetflow.Web.Transforms
