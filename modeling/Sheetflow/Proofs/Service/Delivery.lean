import Sheetflow.Proofs.Field.Restores
import Sheetflow.Proofs.Service.Submitting

/-!
# Deliveries in steady worlds

A payload that was queued is read back as its task.  The worker that gets it while the job is
waiting carries the job out up to its end; any other delivery is skipped and leaves the world as it
is.
-/

namespace Sheetflow

open Service

namespace Task
variable {w : World} {t : Task} {j : Job}

theorem get?_filled (name key : String) (o : Option String) :
    Table.get? (filled name o) key =
      if name = key then (o.filter (· ≠ "")).map Value.str else none := by
  cases o with
  | none => simp [filled]
  | some s =>
    by_cases hs : s = ""
    · simp [filled, hs, Option.filter]
    · simp [filled, hs, Table.get?_cons, Option.filter]

/-- **A payload is read back as its task**, except that texts that were empty are not given. -/
theorem ofPayload_payload (t : Task) :
    ofPayload t.payload =
      .ok { t with callbackUrl := t.callbackUrl.filter (· ≠ ""), uid := t.uid.filter (· ≠ "") } := by
  have hoptional (name : String) (o : Option String) (es : Table String Value)
      (h : es.get? name = o.map Value.str) : optionalEntry (Value.record es) name = o := by
    rw [optionalEntry, Value.get?_record, h]
    cases o <;> rfl
  have htext (name s : String) (es : Table String Value) (h : es.get? name = some (.str s)) :
      textEntry (Value.record es) name = .ok s := by
    rw [textEntry, Value.get?_record, h]
    rfl
  unfold ofPayload payload
  rw [htext "jobId" t.job _ (by simp [Table.get?_cons]),
    htext "organizationId" t.organization _ (by simp [Table.get?_cons]),
    htext "configurationId" t.configuration _ (by simp [Table.get?_cons]),
    htext "fileData" t.fileData _ (by simp [Table.get?_cons]),
    htext "fileName" t.fileName _ (by simp [Table.get?_cons]),
    hoptional "callbackUrl" (t.callbackUrl.filter (· ≠ "")) _
      (by simp [Table.get?_cons, get?_filled]),
    hoptional "uid" (t.uid.filter (· ≠ "")) _ (by simp [Table.get?_cons, get?_filled])]
  rfl

/-- A job that is not waiting is not taken. -/
theorem exec_process_of_taken [Host] (hw : w.Steady) (hj : w.store.jobs.get? t.job = some j)
    (hs : j.status ≠ .pending) : exec t.process w = (w, .ok (.skipped t.job)) := by
  have hmove : j.status.canMove .processing = false := by
    cases h : j.status
    · exact absurd h hs
    all_goals decide
  rw [process, exec_bind_of_ok (exec_attempt _ w), Jobs.exec_move_of_refused hw hj hmove []]
  rfl

/-- The configuration and the file of a task, as far as the store has them. -/
def prepared (t : Task) (s : Store) : Except ServiceError (Configuration × Bytes) :=
  match (s.configurations.get? t.configuration).filter
    (Configurations.isVisible t.organization false) with
  | none => .error (.noConfiguration t.configuration)
  | some c =>
    match Text.Base64.decode t.fileData with
    | .error e => .error (.badFileData e)
    | .ok bs => .ok (c, bs)

theorem exec_prepare (hw : w.Steady) (t : Task) : exec t.prepare w = (w, t.prepared w.store) := by
  have hfind := Submission.exec_configurationFor hw t.organization t.configuration
  unfold prepare prepared
  cases hc : (w.store.configurations.get? t.configuration).filter
    (Configurations.isVisible t.organization false) with
  | none =>
    rw [hc] at hfind
    exact exec_bind_of_error hfind _
  | some c =>
    rw [hc] at hfind
    rw [exec_bind_of_ok hfind]
    cases Text.Base64.decode t.fileData <;> rfl

/-- What becomes of a job that a worker took. -/
def ending [Host] (t : Task) (j : Job) (s : Store) (files : FileTree) : Ending :=
  match t.prepared s with
  | .error e => Submission.failing files e.message none
  | .ok (c, bs) => Submission.ending j c ⟨bs⟩ t.fileName files

/-- What a worker reports on a job that it took and that is now as given. -/
def report (t : Task) (s : Store) (j : Job) : Report :=
  match t.prepared s with
  | .error _ => .notStarted j
  | .ok _ => .carriedOut j

theorem finish_ending [Host] (t : Task) (j : Job) (s : Store) (files : FileTree) :
    Submission.Finish (t.ending j s files).target (t.ending j s files).fields := by
  unfold ending
  cases t.prepared s with
  | error e => exact .failed _ _
  | ok p => exact Submission.finish_ending _ _ _ _ _

/-- What a worker does with a job that it took. -/
def carry [Host] (t : Task) (j : Job) : Service Report := do
  match ← attempt t.prepare with
  | .ok (c, bs) => return .carriedOut (← Submission.execute j c ⟨bs⟩ t.fileName).job
  | .error e =>
    let failed ← Submission.markFailed j e.message none
    Submission.giveBack t.organization false
    return .notStarted failed

/-- The job while a worker carries it out. -/
def taken (w : World) (j : Job) : Job := j.moved .processing w.time []

theorem taken_eq (w : World) (j : Job) :
    taken w j = { j with status := .processing, startedAt := some (j.startedAt.getD w.time) } :=
  j.moved_processing w.time

theorem taken_id (w : World) (j : Job) : (taken w j).id = j.id := by rw [taken_eq]

theorem taken_status (w : World) (j : Job) : (taken w j).status = .processing := by rw [taken_eq]

/-- The world in which a worker took a job. -/
def started (w : World) (j : Job) : World :=
  w.withStore { w.store with jobs := w.store.jobs.set j.id (taken w j) }

variable [Host]

theorem exec_carry (hw : w.Steady) (hj : w.store.jobs.get? j.id = some j)
    (hs : j.status = .processing) (horg : j.organization = t.organization) :
    exec (t.carry j) w =
      (w.closed j (t.ending j w.store w.files),
        .ok (t.report w.store ((t.ending j w.store w.files).outcome j w.time).job)) := by
  rw [carry, exec_bind_of_ok (exec_attempt _ w), exec_prepare hw t]
  unfold ending report
  cases t.prepared w.store with
  | ok p =>
    have hexecute := Submission.exec_execute hw hj hs p.1 ⟨p.2⟩ t.fileName
    simp only
    rw [exec_bind_of_ok hexecute, exec_pure]
  | error e =>
    have hmove : j.status.canMove .failed = true := by
      rw [hs]
      decide
    simp only
    rw [← horg, Submission.exec_fail_bind hw hj hmove, exec_pure]

/-- **A delivery of a job that waits** carries it out up to its end. -/
theorem exec_process_of_pending (hw : w.Steady) (hj : w.store.jobs.get? j.id = some j)
    (hs : j.status = .pending) (hid : j.id = t.job) (horg : j.organization = t.organization) :
    exec t.process w =
      ((started w j).closed (taken w j) (t.ending (taken w j) w.store w.files),
        .ok (t.report w.store
          ((t.ending (taken w j) w.store w.files).outcome (taken w j) w.time).job)) := by
  have hmove : j.status.canMove .processing = true := by
    rw [hs]
    decide
  have hstart : exec (Jobs.move j.id .processing []) w = (started w j, .ok (taken w j)) :=
    Jobs.exec_move hw hj hmove []
  have hk : (started w j).store.jobs.get? (taken w j).id = some (taken w j) := by
    rw [taken_id]
    exact Table.get?_set_self _ _ _
  have hcarry := exec_carry (hw.withStore _) hk (taken_status w j)
    (show (taken w j).organization = t.organization by rw [taken_eq, horg])
  rw [process, exec_bind_of_ok (exec_attempt _ w), ← hid, hstart]
  exact hcarry

/-- A payload that was queued is carried out as its task; what a payload leaves out is not used. -/
theorem exec_processPayload (t : Task) (w : World) :
    exec (processPayload t.payload) w = exec t.process w := by
  rw [processPayload, ofPayload_payload]
  rfl

end Task

end Sheetflow
