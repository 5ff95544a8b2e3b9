import Sheetflow.Service.Program
import Sheetflow.Service.Settings

/-!
# Health

Is the store there, and how long is the queue? Trouble with either is not an error but a report.
-/

namespace Sheetflow.Health

open Service

/-- Is the store there? -/
def isStoreThere : Service Bool := do
  match ← attempt (command .ping) with
  | .ok there => return there
  | .error _ => return false

/-- The length of a queue. No counts are kept of tasks that failed or were started. -/
structure QueueState where
  name : String
  queued : Nat
deriving DecidableEq

def queue (s : Settings) : Service QueueState := do
  let queued : Nat ← command .queueLength
  return ⟨s.queueName, queued⟩

def QueueState.toValue (q : QueueState) : Value :=
  .record [("name", .str q.name), ("queued", .int q.queued), ("failed", .int 0), ("started", .int 0)]

/-- What is known of the store and of the queue; nothing of the queue if either is not there. -/
structure Report where
  storeIsThere : Bool
  queue : Option QueueState
deriving DecidableEq

def check (s : Settings) : Service Report := do
  if ← isStoreThere then
    match ← attempt (queue s) with
    | .ok q => return ⟨true, some q⟩
    | .error _ => return ⟨false, none⟩
  else return ⟨false, none⟩

end Sheetflow.Health
