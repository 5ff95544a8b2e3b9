import Sheetflow.Service.Program

/-!
# Keeping jobs

Jobs are kept by id, each id used once, and indexed for their organization by their time of creation.
Their status only changes by `move`, which replaces the record if nobody else changed it meanwhile.
-/

namespace Sheetflow.Jobs

open Service

/-- Store a new job. -/
def create (j : Job) : Service Job := do
  if j.status.isInitial then
    let created : Bool ← command (.createJob j)
    if created then
      let _ ← command (.indexJob j)
      return j
    else throw (.jobExists j.id)
  else throw (.moveRefused j.id none j.status)

/-- The job of an id; for an organization, only if it is one of its own. -/
def find? (id : String) (org : Option String) : Service (Option Job) := do
  let found : Option Job ← command (.getJob id)
  return found.filter fun j => org.all (· == j.organization)

/-- The newest jobs of an organization. -/
def newest (org : String) (limit : Int) : Service (List Job) := do
  let ids : List String ← command (.newestJobs org (limit - 1))
  if ids.isEmpty then return []
  command (.getJobs ids)

/-- The job that a stored one becomes by moving to `target`. -/
def next (id : String) (target : JobStatus) (now : DateTime) (fields : List JobField) :
    Option Job → Except ServiceError Job
  | none => .error (.noJob id)
  | some j =>
    if j.status.canMove target then .ok (j.moved target now fields)
    else .error (.moveRefused id (some j.status) target)

/-- Move a job to another status and set fields. -/
def move (id : String) (target : JobStatus) (fields : List JobField) : Service Job := do
  let now ← now
  let moved : Except ServiceError Job ← command (.updateJob id (next id target now fields))
  result moved

end Sheetflow.Jobs
