import Sheetflow.Service.Configurations
import Sheetflow.Service.Jobs
import Sheetflow.Service.Outputs
import Sheetflow.Service.Quota

/-!
# Submitting and carrying out jobs

A submission finds its configuration, is admitted, and becomes a job, which is either carried out at
once or queued for a worker. Once a job is under way its troubles end in its record: it is moved to
failed with a message, and the units taken at admission are given back.
-/

namespace Sheetflow

/-- How a submission is carried out. -/
inductive Mode where
  | sync
  | queued
deriving DecidableEq, Repr

def Mode.word : Mode → String
  | .sync => "sync"
  | .queued => "queued"

/-- Small files are carried out at once unless the caller asks for something else. -/
def Mode.choose (s : Settings) (size : Int) (async : Bool) (callback : Option String) : Mode :=
  if async || callback.any (· ≠ "") || s.syncThreshold ≤ size then .queued else .sync

/-- A file handed in for transformation. -/
structure Submission where
  organization : String
  configuration : String
  file : File
  fileName : String
  async : Bool
  callbackUrl : Option String
  uid : Option String

/-- A job that has ended, and what it made. -/
structure JobOutcome where
  job : Job
  result : Option RunResult
  text : Option String

structure Submitted where
  mode : Mode
  outcome : JobOutcome

namespace RunResult

/-- The log of a run with further warnings, as it is kept with a job. -/
def log (r : RunResult) (more : List String) : Value :=
  .record
    [("applied", Value.texts r.applied), ("warnings", Value.texts (r.warnings ++ more)),
      ("rowCount", .int r.rowCount), ("colCount", .int r.columnCount), ("aborted", .bool r.aborted)]

/-- Why an aborted run was aborted: its last warning but one. -/
def abortReason (r : RunResult) : String :=
  if 2 ≤ r.warnings.length then (r.warnings.dropLast.getLast?).getD ""
  else (r.warnings.getLast?).getD ""

end RunResult

def File.size (f : File) : Int := f.contents.length

namespace Submission

open Service

variable [Host]

/-- Give back what was taken at admission; trouble with that is let go. -/
def giveBack (org : String) (completed : Bool) : Service Unit := do
  let _ ← attempt do
    Quota.release org
    if !completed then
      let _ ← Quota.refund org

/-- The fields of a failed job. -/
def failureFields (message : String) (log : Option Value) : List JobField :=
  .errorMessage (some message) :: log.toList.map fun l => .log (some l)

/-- Move a job to failed. If that is refused the record is what counts; if the store is not there, a copy
of the job is marked. -/
def markFailed (j : Job) (message : String) (log : Option Value) : Service Job := do
  match ← attempt (Jobs.move j.id .failed (failureFields message log)) with
  | .ok failed => return failed
  | .error e =>
    if e.kind?.isSome then return (← Jobs.find? j.id none).getD j
    else
      let now ← now
      return j.setAll ([.status .failed, .completedAt (some now)] ++ failureFields message log)

/-- The warning that characters were lost. -/
def lossWarning (c : Configuration) : String :=
  "Some characters could not be encoded as " ++ c.output.encoding.name ++ " and were replaced"

/-- Save what a run gave and complete the job; was it completed? -/
def deliver (j : Job) (c : Configuration) (fileName : String) (r : RunResult) : Service JobOutcome := do
  let encoded := c.outputBytes r.matrix
  let log := r.log (if encoded.lossy then [lossWarning c] else [])
  let ref ← Outputs.save j.organization j.id (FileName.ofOutput fileName c.output.delimiter) encoded.bytes
  let completed ← Jobs.move j.id .completed [.outputRef (some ref), .log (some log)]
  return ⟨completed, some r, some (c.outputText r.matrix)⟩

/-- Finish a job whose run gave a result. -/
def finish (j : Job) (c : Configuration) (fileName : String) (r : RunResult) :
    Service (Bool × JobOutcome) := do
  if r.aborted then
    let failed ← markFailed j ("Transformation aborted: " ++ r.abortReason) (some (r.log []))
    return (false, ⟨failed, some r, none⟩)
  else return (true, ← deliver j c fileName r)

/-- Carry out a job up to its end; was it completed? -/
def carryOut (j : Job) (c : Configuration) (file : File) (fileName : String) :
    Service (Bool × JobOutcome) := do
  match c.transform file fileName with
  | .error e => return (false, ⟨← markFailed j e.message none, none, none⟩)
  | .ok r =>
    match ← attempt (finish j c fileName r) with
    | .ok done => return done
    | .error e => return (false, ⟨← markFailed j e.message (some (r.log [])), some r, none⟩)

/-- Carry out a job that is under way, and give back what was taken for it. -/
def execute (j : Job) (c : Configuration) (file : File) (fileName : String) : Service JobOutcome := do
  match ← attempt (carryOut j c file fileName) with
  | .ok (completed, outcome) =>
    giveBack j.organization completed
    return outcome
  | .error e =>
    giveBack j.organization false
    throw e

/-- The record of a new job. -/
def newJob (s : Submission) (id configuration : String) (mode : Mode) (now : DateTime) : Job :=
  { id, organization := s.organization, configuration
    status := if mode = .queued then .pending else .processing
    fileName := some s.fileName, fileSize := some s.file.size, createdAt := now
    startedAt := if mode = .queued then none else some now
    completedAt := none, errorMessage := none, outputRef := none, log := none
    callbackUrl := s.callbackUrl, uid := s.uid }

/-- The task that carries out a queued job. -/
def task (s : Submission) (j : Job) : Task :=
  { job := j.id, organization := s.organization, configuration := j.configuration
    fileData := Text.Base64.encode s.file.contents, fileName := s.fileName
    callbackUrl := s.callbackUrl, uid := s.uid }

/-- Queue a job; one that cannot be queued has failed. -/
def publish (s : Submission) (j : Job) : Service Job := do
  match ← attempt (command (.enqueue (s.task j))) with
  | .ok _ => return j
  | .error e =>
    let failed ← markFailed j ("Failed to queue job: " ++ e.message) none
    giveBack s.organization false
    return failed

/-- The configuration that an organization wants to use. -/
def configurationFor (org id : String) : Service Configuration := do
  match ← Configurations.find? org id false with
  | some c => return c
  | none => throw (.noConfiguration id)

/-- Store the job of an admitted submission, or give back what was taken for it. -/
def createJob (s : Submission) (j : Job) : Service Job := do
  match ← attempt (Jobs.create j) with
  | .ok j => return j
  | .error e =>
    giveBack s.organization false
    throw e

/-- Hand in a file. -/
def submit (settings : Settings) (s : Submission) : Service Submitted := do
  let c ← configurationFor s.organization s.configuration
  if FileName.isSupported s.fileName then
    match ← Quota.reserve settings s.organization s.file.size with
    | .denied reason _ => throw (.denied (if reason = "" then "Quota exceeded" else reason))
    | .allowed _ =>
      let mode := Mode.choose settings s.file.size s.async s.callbackUrl
      let now ← now
      let id ← freshId .job
      let j ← createJob s (s.newJob id c.id mode now)
      match mode with
      | .queued => return ⟨mode, ⟨← publish s j, none, none⟩⟩
      | .sync => return ⟨mode, ← execute j c s.file s.fileName⟩
  else throw (.unsupportedFile s.fileName)

end Submission

namespace Task

open Service

/-- What became of a task. -/
inductive Report where
  /-- The job was taken already, or is not there. -/
  | skipped (job : String)
  /-- The job could not be started. -/
  | notStarted (j : Job)
  | carriedOut (j : Job)

/-- The configuration and the file of a task. -/
def prepare (t : Task) : Service (Configuration × Bytes) := do
  let c ← Submission.configurationFor t.organization t.configuration
  let bs ← result ((Text.Base64.decode t.fileData).mapError .badFileData)
  return (c, bs)

/-- Does the error say that the job is not there to be taken? -/
def isTaken : ServiceError → Bool
  | .badMove _ _ _ => true
  | .noJob _ => true
  | _ => false

/-- Carry out a task. The worker that moves its job out of waiting owns the job until it has ended. -/
def process [Host] (t : Task) : Service Report := do
  match ← attempt (Jobs.move t.job .processing []) with
  | .error e => if isTaken e then return .skipped t.job else throw e
  | .ok j =>
    match ← attempt t.prepare with
    | .ok (c, bs) => return .carriedOut (← Submission.execute j c ⟨bs⟩ t.fileName).job
    | .error e =>
      let failed ← Submission.markFailed j e.message none
      Submission.giveBack t.organization false
      return .notStarted failed

/-- Carry out the task that a payload stands for. -/
def processPayload [Host] (payload : Value) : Service Report := do
  let t ← result ((ofPayload payload).mapError .missingField)
  t.process

namespace Report

/-- The report as a worker leaves it. -/
def toValue : Report → Value
  | .skipped job => .record [("jobId", .str job), ("status", .str "skipped")]
  | .notStarted j => .record [("jobId", .str j.id), ("status", .str j.status.word)]
  | .carriedOut j =>
    .record [("jobId", .str j.id), ("status", .str j.status.word), ("outputRef", .ofText? j.outputRef)]

end Report

end Task

end Sheetflow
