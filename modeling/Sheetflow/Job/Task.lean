import Sheetflow.Document.Value

/-!
# Queued tasks

A task is what a worker needs to carry out a job: which job and configuration, and the file in base 64.
It travels as a map of texts.
-/

namespace Sheetflow

structure Task where
  job : String
  organization : String
  configuration : String
  /-- The bytes of the file in base 64. -/
  fileData : String
  fileName : String
  callbackUrl : Option String
  uid : Option String
deriving DecidableEq

/-- A field that a task needs is not there. -/
structure MissingField where
  name : String
deriving DecidableEq

/-- The message is the name as a key. -/
def MissingField.message (e : MissingField) : String := Text.quoted e.name

namespace Task

/-- A field that is given and not empty. -/
def filled (name : String) : Option String → List (String × Value)
  | some s => if s = "" then [] else [(name, .str s)]
  | none => []

/-- The map for a task; what was not given is left out. -/
def payload (t : Task) : Value :=
  .record
    ([("jobId", .str t.job), ("organizationId", .str t.organization),
      ("configurationId", .str t.configuration), ("fileData", .str t.fileData),
      ("fileName", .str t.fileName)] ++ filled "callbackUrl" t.callbackUrl ++ filled "uid" t.uid)

def textEntry (v : Value) (name : String) : Except MissingField String :=
  match v.get? name with
  | some w => .ok w.plainText
  | none => .error ⟨name⟩

def optionalEntry (v : Value) (name : String) : Option String :=
  match v.get? name with
  | none => none
  | some .null => none
  | some w => some w.plainText

/-- The task that a map stands for. -/
def ofPayload (v : Value) : Except MissingField Task := do
  let job ← textEntry v "jobId"
  let organization ← textEntry v "organizationId"
  let configuration ← textEntry v "configurationId"
  let fileData ← textEntry v "fileData"
  let fileName ← textEntry v "fileName"
  return { job, organization, configuration, fileData, fileName
           callbackUrl := optionalEntry v "callbackUrl", uid := optionalEntry v "uid" }

end Task

end Sheetflow
