import Sheetflow.Proofs.Service.Steady

/-!
# How jobs under way end

What carrying out a job comes to can be said without a store: `Submission.ending` computes
the files that are left, the status the job moves to with the fields that are set, and what the
submitter gets.  In a steady world the services do just that: `exec_execute` says that a job under
way is moved to where its ending says, and what was taken for it is returned.
-/

namespace Sheetflow

open Service

/-- The files after an output was saved, and the reference to it. -/
def Outputs.saved [Host] (files : FileTree) (org job name : String) (bs : Bytes) :
    FileTree × Except ServiceError String :=
  let ref := org ++ "/" ++ job ++ "/" ++ FileName.base name
  match path ref with
  | .error e => (files, .error e)
  | .ok p =>
    match files.write p bs with
    | (files, .ok ()) => (files, .ok ref)
    | (files, .error e) => (files, .error (.storage (.notWritten job e)))

theorem Outputs.exec_save [Host] (w : World) (org job name : String) (bs : Bytes) :
    exec (save org job name bs) w =
      ({ w with files := (saved w.files org job name bs).1 }, (saved w.files org job name bs).2) := by
  unfold save saved
  cases hp : path (org ++ "/" ++ job ++ "/" ++ FileName.base name) with
  | error e =>
    simp only [hp]
    rfl
  | ok p =>
    have hwrite : @exec (Except FileFault Unit) (command (.writeFile p bs)) w =
        ({ w with files := (w.files.write p bs).1 }, .ok (w.files.write p bs).2) := rfl
    simp only [hp]
    rw [exec_bind_of_ok (show exec (result (.ok p)) w = (w, .ok p) from rfl),
      exec_bind_of_ok hwrite]
    rcases w.files.write p bs with ⟨files, _ | ⟨⟩⟩ <;> rfl

/-- What becomes of a job under way. -/
structure Ending where
  files : FileTree
  target : JobStatus
  fields : List JobField
  result : Option RunResult
  text : Option String

/-- Was the job completed? -/
def Ending.isCompletion (e : Ending) : Bool := e.target = .completed

/-- What the submitter of a job gets that ends so at a time. -/
def Ending.outcome (e : Ending) (j : Job) (t : DateTime) : JobOutcome :=
  ⟨j.moved e.target t e.fields, e.result, e.text⟩

namespace World

def withFiles (w : World) (files : FileTree) : World := { w with files }

@[simp] theorem withFiles_self (w : World) : w.withFiles w.files = w := rfl

theorem Steady.withFiles {w : World} (hw : w.Steady) (files : FileTree) :
    (w.withFiles files).Steady :=
  ⟨hw.races, hw.faults, hw.connected⟩

/-- The world in which a job has ended, apart from what is returned then. -/
def ended (w : World) (j : Job) (e : Ending) : World :=
  (w.withFiles e.files).withStore
    { w.store with jobs := w.store.jobs.set j.id (j.moved e.target w.time e.fields) }

theorem time_ended (w : World) (j : Job) (e : Ending) : (w.ended j e).time = w.time := rfl

/-- The world in which a job has ended and what was taken for it was returned. -/
def closed (w : World) (j : Job) (e : Ending) : World :=
  (w.ended j e).withStore
    ((w.ended j e).store.returned j.organization w.time e.isCompletion)

end World

/-- A job that is taken is under way; a time of its start that was known is kept. -/
theorem Job.moved_processing (j : Job) (now : DateTime) :
    j.moved .processing now [] =
      { j with status := .processing, startedAt := some (j.startedAt.getD now) } := by
  unfold moved moveFields
  cases h : j.startedAt with
  | none => simp [JobStatus.isTerminal, setAll, set, h]
  | some t => simp [JobStatus.isTerminal, setAll, set, h]

namespace Submission

/-- The fields that are set when a job ends: an output and a log if it was completed, a message and
perhaps a log if it failed. -/
inductive Finish : JobStatus → List JobField → Prop
  | completed (ref : String) (log : Value) : Finish .completed [.outputRef (some ref), .log (some log)]
  | failed (message : String) (log : Option Value) : Finish .failed (failureFields message log)

namespace Finish
variable {target : JobStatus} {fields : List JobField}

theorem status_moved (h : Finish target fields) (j : Job) (now : DateTime) :
    (j.moved target now fields).status = target ∧
      (j.moved target now fields).completedAt = some now := by
  cases h with
  | completed ref log => exact ⟨rfl, rfl⟩
  | failed message log => cases log <;> exact ⟨rfl, rfl⟩

theorem moved_keeps (h : Finish target fields) (j : Job) (now : DateTime) :
    (j.moved target now fields).id = j.id ∧
      (j.moved target now fields).organization = j.organization ∧
      (j.moved target now fields).createdAt = j.createdAt := by
  cases h with
  | completed ref log => exact ⟨rfl, rfl, rfl⟩
  | failed message log => cases log <;> exact ⟨rfl, rfl, rfl⟩

theorem eq_completed_or_failed (h : Finish target fields) :
    target = .completed ∨ target = .failed := by
  cases h with
  | completed ref log => exact .inl rfl
  | failed message log => exact .inr rfl

end Finish

/-- A job that failed for a reason, with what is known of its run. -/
def failing (files : FileTree) (message : String) (r : Option RunResult) : Ending :=
  ⟨files, .failed, failureFields message (r.map fun r => r.log []), r, none⟩

/-- A job that was completed, with its output saved under a reference. -/
def delivered (c : Configuration) (files : FileTree) (r : RunResult) (ref : String) : Ending :=
  let log := r.log (if (c.outputBytes r.matrix).lossy then [lossWarning c] else [])
  ⟨files, .completed, [.outputRef (some ref), .log (some log)], some r, some (c.outputText r.matrix)⟩

/-- The ending of a job whose run gave a result. -/
def endingOf [Host] (j : Job) (c : Configuration) (fileName : String) (files : FileTree)
    (r : RunResult) : Ending :=
  if r.aborted then failing files ("Transformation aborted: " ++ r.abortReason) (some r)
  else
    match Outputs.saved files j.organization j.id (FileName.ofOutput fileName c.output.delimiter)
        (c.outputBytes r.matrix).bytes with
    | (files, .error e) => failing files e.message (some r)
    | (files, .ok ref) => delivered c files r ref

/-- What becomes of a job when a configuration is applied to a file. -/
def ending [Host] (j : Job) (c : Configuration) (file : File) (fileName : String)
    (files : FileTree) : Ending :=
  match c.transform file fileName with
  | .error e => failing files e.message none
  | .ok r => endingOf j c fileName files r

theorem finish_ending [Host] (j : Job) (c : Configuration) (file : File) (fileName : String)
    (files : FileTree) :
    Finish (ending j c file fileName files).target (ending j c file fileName files).fields := by
  unfold ending
  cases c.transform file fileName with
  | error e => exact .failed _ _
  | ok r =>
    simp only [endingOf]
    split
    · exact .failed _ _
    · split
      · exact .failed _ _
      · exact .completed _ _

section Exec
variable {w : World} {j : Job}

theorem exec_markFailed_of_steady (hw : w.Steady) {k : Job} (hk : w.store.jobs.get? j.id = some k)
    (hmove : k.status.canMove .failed = true) (message : String) (log : Option Value) :
    exec (markFailed j message log) w =
      (w.withStore { w.store with
          jobs := w.store.jobs.set j.id (k.moved .failed w.time (failureFields message log)) },
        .ok (k.moved .failed w.time (failureFields message log))) := by
  rw [markFailed, exec_bind_of_ok (exec_attempt _ w),
    Jobs.exec_move hw hk hmove (failureFields message log), exec_pure]

theorem exec_giveBack_of_steady (hw : w.Steady) (org : String) (completed : Bool) :
    exec (giveBack org completed) w =
      (w.withStore (w.store.returned org w.time completed), .ok ()) := by
  have hrelease : exec (Quota.release org) w =
      (w.withStore (w.store.takeBack (.active org)), .ok ()) := by
    rw [Quota.release, exec_bind_of_ok (Quota.exec_giveBack hw _), exec_pure]
  rw [giveBack, exec_bind_of_ok (exec_attempt _ w), exec_pure, exec_bind_of_ok hrelease]
  cases completed with
  | true => rfl
  | false =>
    have hrefund : ∃ n, exec (Quota.refund org) (w.withStore (w.store.takeBack (.active org))) =
        (w.withStore (w.store.returned org w.time false), .ok n) := by
      rw [Quota.refund, exec_bind_of_ok (exec_now _), Quota.exec_giveBack (hw.withStore _)]
      exact ⟨_, rfl⟩
    obtain ⟨n, hrefund⟩ := hrefund
    rw [if_pos (show (!false) = true from rfl), exec_bind_of_ok hrefund, exec_pure]

/-- A job that may fail fails, for a reason that is kept with it. -/
theorem exec_markFailed_failing (hw : w.Steady) (hj : w.store.jobs.get? j.id = some j)
    (hmove : j.status.canMove .failed = true) (files : FileTree) (message : String)
    (r : Option RunResult) :
    exec (markFailed j message (r.map fun r => r.log [])) (w.withFiles files) =
      (w.ended j (failing files message r),
        .ok (j.moved .failed w.time (failing files message r).fields)) := by
  rw [exec_markFailed_of_steady (hw.withFiles files) hj hmove]
  rfl

/-- A job that fails before it is carried out is closed before anything else happens. -/
theorem exec_fail_bind {β : Type} (hw : w.Steady) (hj : w.store.jobs.get? j.id = some j)
    (hmove : j.status.canMove .failed = true) (message : String) (f : Job → Service β) :
    exec (markFailed j message none >>= fun failed =>
        giveBack j.organization false >>= fun _ => f failed) w =
      exec (f ((failing w.files message none).outcome j w.time).job)
        (w.closed j (failing w.files message none)) := by
  have hfailed := exec_markFailed_failing hw hj hmove w.files message none
  rw [Option.map_none, World.withFiles_self] at hfailed
  have hw' : (w.ended j (failing w.files message none)).Steady := (hw.withFiles _).withStore _
  rw [exec_bind_of_ok hfailed, exec_bind_of_ok (exec_giveBack_of_steady hw' j.organization false)]
  rfl

section UnderWay

/-! A job `j` that is under way: the record is stored, and nobody else moves it. -/

variable [Host]
variable (hw : w.Steady) (hj : w.store.jobs.get? j.id = some j) (hs : j.status = .processing)
include hw hj hs

/-- A job that was not aborted is completed, or its output could not be saved. -/
theorem exec_deliver (c : Configuration) (fileName : String) (r : RunResult) :
    exec (deliver j c fileName r) w =
      match Outputs.saved w.files j.organization j.id (FileName.ofOutput fileName c.output.delimiter)
          (c.outputBytes r.matrix).bytes with
      | (files, .error e) => (w.withFiles files, .error e)
      | (files, .ok ref) =>
        (w.ended j (delivered c files r ref), .ok ((delivered c files r ref).outcome j w.time)) := by
  have hmove : j.status.canMove .completed = true := by
    rw [hs]
    decide
  have hsave := Outputs.exec_save w j.organization j.id
    (FileName.ofOutput fileName c.output.delimiter) (c.outputBytes r.matrix).bytes
  revert hsave
  rcases Outputs.saved w.files j.organization j.id (FileName.ofOutput fileName c.output.delimiter)
    (c.outputBytes r.matrix).bytes with ⟨files, e | ref⟩
  · intro hsave
    exact exec_bind_of_error hsave _
  · intro hsave
    have hcompleted := Jobs.exec_move (hw.withFiles files) hj hmove (delivered c files r ref).fields
    rw [deliver, exec_bind_of_ok hsave]
    exact (exec_bind_of_ok hcompleted _).trans (exec_pure _ _)

/-- A job whose run gave a result ends, whether its output can be saved or not. -/
theorem exec_finish (c : Configuration) (fileName : String) (r : RunResult) :
    exec (attempt (finish j c fileName r)) w =
        (w.ended j (endingOf j c fileName w.files r),
          .ok (.ok ((endingOf j c fileName w.files r).isCompletion,
            (endingOf j c fileName w.files r).outcome j w.time))) ∨
      ∃ files e, exec (attempt (finish j c fileName r)) w = (w.withFiles files, .ok (.error e)) ∧
        endingOf j c fileName w.files r = failing files e.message (some r) := by
  have hfailed : j.status.canMove .failed = true := by
    rw [hs]
    decide
  rw [exec_attempt, finish, endingOf]
  by_cases ha : r.aborted = true
  · have hfail := exec_markFailed_failing hw hj hfailed w.files
      ("Transformation aborted: " ++ r.abortReason) (some r)
    rw [Option.map_some, World.withFiles_self] at hfail
    rw [if_pos ha, if_pos ha, exec_bind_of_ok hfail, exec_pure]
    exact .inl rfl
  · rw [if_neg ha, if_neg ha]
    have hdeliver := exec_deliver hw hj hs c fileName r
    revert hdeliver
    rcases Outputs.saved w.files j.organization j.id (FileName.ofOutput fileName c.output.delimiter)
      (c.outputBytes r.matrix).bytes with ⟨files, e | ref⟩
    · intro hdeliver
      rw [exec_bind_of_error hdeliver]
      exact .inr ⟨files, e, rfl, rfl⟩
    · intro hdeliver
      rw [exec_bind_of_ok hdeliver]
      exact .inl rfl

theorem exec_carryOut (c : Configuration) (file : File) (fileName : String) :
    exec (carryOut j c file fileName) w =
      (w.ended j (ending j c file fileName w.files),
        .ok ((ending j c file fileName w.files).isCompletion,
          (ending j c file fileName w.files).outcome j w.time)) := by
  have hfailed : j.status.canMove .failed = true := by
    rw [hs]
    decide
  unfold carryOut ending
  cases c.transform file fileName with
  | error e =>
    have hfail := exec_markFailed_failing hw hj hfailed w.files e.message none
    rw [Option.map_none, World.withFiles_self] at hfail
    simp only
    rw [exec_bind_of_ok hfail, exec_pure]
    rfl
  | ok r =>
    simp only
    obtain hfinish | ⟨files, e, hfinish, he⟩ := exec_finish hw hj hs c fileName r
    · rw [exec_bind_of_ok hfinish, exec_pure]
    · have hfail := exec_markFailed_failing hw hj hfailed files e.message (some r)
      rw [Option.map_some] at hfail
      rw [exec_bind_of_ok hfinish, he]
      simp only
      rw [exec_bind_of_ok hfail, exec_pure]
      rfl

/-- **What carrying out a job does**: the job ends, and what was taken for it is returned. -/
theorem exec_execute (c : Configuration) (file : File) (fileName : String) :
    exec (execute j c file fileName) w =
      (w.closed j (ending j c file fileName w.files),
        .ok ((ending j c file fileName w.files).outcome j w.time)) := by
  have hw' : (w.ended j (ending j c file fileName w.files)).Steady :=
    (hw.withFiles _).withStore _
  rw [execute, exec_bind_of_ok (exec_attempt _ w), exec_carryOut hw hj hs]
  have hback := exec_giveBack_of_steady hw' j.organization
    (ending j c file fileName w.files).isCompletion
  simp only
  rw [exec_bind_of_ok hback, exec_pure, World.closed, World.time_ended]

end UnderWay

end Exec

end Submission

end Sheetflow
