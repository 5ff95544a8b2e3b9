/-!
# The life of a job

A job waits, is worked on, and ends completed or failed. It moves in one direction only: `canMove`
lists the allowed moves.
-/

namespace Sheetflow

inductive JobStatus where
  | pending
  | processing
  | completed
  | failed
deriving DecidableEq, Repr, Inhabited

namespace JobStatus

def word : JobStatus → String
  | .pending => "pending"
  | .processing => "processing"
  | .completed => "completed"
  | .failed => "failed"

def all : List JobStatus := [.pending, .processing, .completed, .failed]

def ofWord? (s : String) : Option JobStatus := all.find? (·.word == s)

/-- Has the job ended? -/
def isTerminal : JobStatus → Bool
  | .completed => true
  | .failed => true
  | _ => false

/-- The statuses that may follow. -/
def next : JobStatus → List JobStatus
  | .pending => [.processing, .failed]
  | .processing => [.completed, .failed]
  | .completed => []
  | .failed => []

def canMove (current target : JobStatus) : Bool := (next current).contains target

/-- May a new job have this status? -/
def isInitial : JobStatus → Bool
  | .pending => true
  | .processing => true
  | _ => false

/-- How far the job has come, in percent. -/
def progress : JobStatus → Nat
  | .completed => 100
  | .processing => 50
  | _ => 0

theorem canMove_of_isTerminal {s t : JobStatus} (h : s.isTerminal = true) : s.canMove t = false := by
  cases s <;> simp_all [isTerminal, canMove, next]

end JobStatus

end Sheetflow
