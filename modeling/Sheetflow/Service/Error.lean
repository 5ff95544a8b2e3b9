import Sheetflow.Document.Decode
import Sheetflow.File.Tree
import Sheetflow.Job.Basic
import Sheetflow.Job.Task
import Sheetflow.Token.Basic
import Sheetflow.Transform

/-!
# Errors of services

What callers did wrong and what stood in the way. Errors that a caller can do something about have a
kind, under which they are reported; the others have none.
-/

namespace Sheetflow

/-- Kinds of errors that are reported to callers. -/
inductive ErrorKind where
  | badDocument
  | noConfiguration
  | denied
  | noJob
  | badMove
  | storage
  | unreadable
  | internal
deriving DecidableEq, Repr

namespace ErrorKind

def code : ErrorKind → String
  | .badDocument => "INVALID_CONFIGURATION"
  | .noConfiguration => "CONFIGURATION_NOT_FOUND"
  | .denied => "QUOTA_EXCEEDED"
  | .noJob => "JOB_NOT_FOUND"
  | .badMove => "INVALID_TRANSITION"
  | .storage => "STORAGE_ERROR"
  | .unreadable => "INVALID_FILE"
  | .internal => "INTERNAL_ERROR"

/-- The status of an answer that reports the error. -/
def httpStatus : ErrorKind → Nat
  | .noConfiguration => 404
  | .noJob => 404
  | .denied => 429
  | _ => 400

end ErrorKind

/-- A command that did not come through; `name` is what the failure is called. -/
structure Fault where
  name : String
  kind : Option ErrorKind
  message : String
deriving DecidableEq, Repr

/-- What can go wrong with stored outputs. -/
inductive StorageFault where
  | invalidReference (ref : String)
  | notFound (ref : String)
  | notWritten (job : String) (fault : FileFault)
  | linkExpired
  | badToken (e : Token.Error)
deriving DecidableEq

def StorageFault.message : StorageFault → String
  | .invalidReference ref => "Invalid output reference: " ++ ref
  | .notFound ref => "Output not found: " ++ ref
  | .notWritten job fault => "Failed to store output for job " ++ job ++ ": " ++ fault.message
  | .linkExpired => "Download link has expired"
  | .badToken e => "Invalid download token: " ++ e.message

inductive ServiceError where
  | badDocument (problems : List String)
  | badScalar (e : Document.ScalarFault)
  | tooDeep (message : String)
  | noConfiguration (id : String)
  | denied (reason : String)
  | noJob (id : String)
  | badMove (job : String) (current : Option String) (target : String)
  | jobExists (id : String)
  | storage (e : StorageFault)
  | unsupportedFile (name : String)
  | transform (e : TransformError)
  | foreignConfiguration (id : String)
  | missingField (e : MissingField)
  | badFileData (e : Text.Base64.Error)
  | file (e : FileFault)
  | invalidPath
  | unavailable (f : Fault)
deriving DecidableEq

namespace ServiceError

def message : ServiceError → String
  | .badDocument problems =>
    let text := String.intercalate "; " problems
    if text = "" then "Invalid configuration" else text
  | .badScalar e => e.message
  | .tooDeep message => message
  | .noConfiguration id => "Configuration '" ++ id ++ "' not found or inactive"
  | .denied reason => reason
  | .noJob id => "Job '" ++ id ++ "' not found"
  | .badMove job current target =>
    "Job " ++ job ++ ": cannot move from " ++ current.getD "None" ++ " to " ++ target
  | .jobExists id => "Job '" ++ id ++ "' already exists"
  | .storage e => e.message
  | .unsupportedFile name => "Unsupported file type: " ++ name
  | .transform e => e.message
  | .foreignConfiguration id => "Configuration '" ++ id ++ "' belongs to another organization"
  | .missingField e => e.message
  | .badFileData e => e.message
  | .file e => e.message
  | .invalidPath => "embedded null byte"
  | .unavailable f => f.message

/-- The kind under which an error is reported. -/
def kind? : ServiceError → Option ErrorKind
  | .badDocument _ => some .badDocument
  | .badScalar _ => none
  | .tooDeep _ => none
  | .noConfiguration _ => some .noConfiguration
  | .denied _ => some .denied
  | .noJob _ => some .noJob
  | .badMove _ _ _ => some .badMove
  | .jobExists _ => some .internal
  | .storage _ => some .storage
  | .unsupportedFile _ => some .unreadable
  | .transform (.read (.field _)) => none
  | .transform (.read _) => some .unreadable
  | .transform (.run _) => none
  | .foreignConfiguration _ => none
  | .missingField _ => none
  | .badFileData _ => none
  | .file _ => none
  | .invalidPath => none
  | .unavailable f => f.kind

/-- The error for a document that has no value. -/
def ofDecoding : Document.DecodeError → ServiceError
  | .unreadable problem => .badDocument [problem]
  | .scalar e => .badScalar e
  | .tooDeep message => .tooDeep message

/-- The move of a job that is not allowed. -/
def moveRefused (job : String) (current : Option JobStatus) (target : JobStatus) : ServiceError :=
  .badMove job (current.map JobStatus.word) target.word

end ServiceError

/-- An error as answers carry it: its code, and its problems or its message. -/
def ErrorKind.detail (kind : ErrorKind) (message : String) : Value :=
  .record [("code", .str kind.code), ("message", .str message)]

def problemsDetail (problems : List String) : Value :=
  .record [("code", .str ErrorKind.badDocument.code), ("errors", Value.texts problems)]

namespace ServiceError

/-- What an answer says about an error of a kind. -/
def detail (kind : ErrorKind) (e : ServiceError) : Value :=
  match e with
  | .badDocument problems => problemsDetail problems
  | e => kind.detail e.message

end ServiceError

end Sheetflow
