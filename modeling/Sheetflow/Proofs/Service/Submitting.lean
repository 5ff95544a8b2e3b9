import Sheetflow.Proofs.Service.Admission
import Sheetflow.Proofs.Table

/-!
# Submissions in steady worlds

A submission that is admitted makes a new job.  The job is carried out at once, or it is queued, or it
fails because it cannot be queued; in the first and the last case it has ended when the submission
is answered.
-/

namespace Sheetflow

open Service

namespace World
variable {w : World}

theorem mem_countCall {op : Operation} {fs : List PlannedFault} {f : PlannedFault}
    (h : f ∈ (countCall op fs).1) : ∃ g ∈ fs, g.operation = f.operation := by
  induction fs with
  | nil => cases h
  | cons g fs ih =>
    simp only [countCall] at h
    split at h
    · split at h
      all_goals
        obtain rfl | h := List.mem_cons.mp h
        · exact ⟨g, List.mem_cons_self, rfl⟩
        · exact ⟨f, List.mem_cons_of_mem g h, rfl⟩
    · obtain rfl | h := List.mem_cons.mp h
      · exact ⟨f, List.mem_cons_self, rfl⟩
      · obtain ⟨k, hk, hop⟩ := ih h
        exact ⟨k, List.mem_cons_of_mem g hk, hop⟩

/-- Publishing leaves the faults that are left of those planned. -/
def published (w : World) : World := { w with faults := (countCall .enqueue w.faults).1 }

theorem Steady.published (hw : w.Steady) : w.published.Steady := by
  refine ⟨hw.races, fun f hf => ?_, hw.connected⟩
  obtain ⟨g, hg, hop⟩ := mem_countCall hf
  rw [← hop, hw.faults g hg]

/-- The world with one more task in the queue. -/
def withTask (w : World) (t : Task) : World :=
  { w with
    queue := w.queue ++ [t.payload]
    publications := w.publications ++ [⟨t.job, w.settings.jobTimeout⟩] }

theorem Steady.withTask (hw : w.Steady) (t : Task) : (w.withTask t).Steady :=
  ⟨hw.races, hw.faults, hw.connected⟩

def withNextId (w : World) : World := { w with ids := w.ids + 1 }

theorem Steady.withNextId (hw : w.Steady) : w.withNextId.Steady := ⟨hw.races, hw.faults, hw.connected⟩

/-- The world with one more job, which got the next id. -/
def begun (w : World) (j : Job) : World := w.withNextId.withStore (Jobs.added w.store j)

theorem Steady.begun (hw : w.Steady) (j : Job) : (w.begun j).Steady := hw.withNextId.withStore _

theorem get?_begun (w : World) (j : Job) : (w.begun j).store.jobs.get? j.id = some j :=
  Table.get?_set_self _ _ _

end World

/-- In a steady world a task is queued unless that was planned to go wrong. -/
theorem Service.exec_enqueue {w : World} (hw : w.Steady) (t : Task) :
    exec (command (.enqueue t)) w =
      match (World.countCall .enqueue w.faults).2 with
      | none => (w.published.withTask t, .ok ())
      | some f => (w.published, .error (.unavailable f)) := by
  rw [exec_command, World.perform, World.attempt]
  simp only [hw.connected, Bool.true_or]
  rw [← hw.connected]
  cases (World.countCall .enqueue w.faults).2 <;> rfl

namespace Submission
variable {w : World}

theorem exec_configurationFor (hw : w.Steady) (org id : String) :
    exec (configurationFor org id) w =
      (w, match (w.store.configurations.get? id).filter (Configurations.isVisible org false) with
        | some c => .ok c
        | none => .error (.noConfiguration id)) := by
  rw [configurationFor, exec_bind_of_ok (Configurations.exec_find? hw org id false)]
  cases (w.store.configurations.get? id).filter (Configurations.isVisible org false) <;> rfl

/-- What becomes of a new job. -/
def proceed [Host] (s : Submission) (c : Configuration) (mode : Mode) (j : Job) :
    Service Submitted := do
  match mode with
  | .queued => return ⟨mode, ⟨← publish s j, none, none⟩⟩
  | .sync => return ⟨mode, ← execute j c s.file s.fileName⟩

/-- What a submission does when it was admitted. -/
def start [Host] (s : Submission) (c : Configuration) (mode : Mode) : Service Submitted := do
  let now ← now
  let id ← freshId .job
  let j ← createJob s (s.newJob id c.id mode now)
  proceed s c mode j

theorem submit_eq [Host] (settings : Settings) (s : Submission) :
    submit settings s = (do
      let c ← configurationFor s.organization s.configuration
      if FileName.isSupported s.fileName then
        match ← Quota.reserve settings s.organization s.file.size with
        | .denied reason _ => throw (.denied (if reason = "" then "Quota exceeded" else reason))
        | .allowed _ => start s c (Mode.choose settings s.file.size s.async s.callbackUrl)
      else throw (.unsupportedFile s.fileName)) := rfl

/-- The job that an admitted submission makes. -/
def firstJob (s : Submission) (c : Configuration) (mode : Mode) (w : World) : Job :=
  s.newJob (IdKind.job.id (w.ids + 1)) c.id mode w.time

theorem firstJob_withStore (s : Submission) (c : Configuration) (mode : Mode) (w : World)
    (t : Store) : s.firstJob c mode (w.withStore t) = s.firstJob c mode w := rfl

theorem exec_start [Host] (s : Submission) (c : Configuration) (mode : Mode) (w : World) :
    exec (start s c mode) w =
      exec (createJob s (s.firstJob c mode w) >>= proceed s c mode) w.withNextId := rfl

theorem isInitial_firstJob (s : Submission) (c : Configuration) (mode : Mode) (w : World) :
    (s.firstJob c mode w).status.isInitial = true := by
  cases mode <;> rfl

/-- If the next id is in use there is no new job, and what was taken is given back. -/
theorem exec_start_of_exists [Host] (hw : w.Steady) (s : Submission) (c : Configuration)
    (mode : Mode) {k : Job} (hk : w.store.jobs.get? (IdKind.job.id (w.ids + 1)) = some k) :
    exec (start s c mode) w =
      (w.withNextId.withStore (w.store.returned s.organization w.time false),
        .error (.jobExists (IdKind.job.id (w.ids + 1)))) := by
  have hcreate := Jobs.exec_create_of_exists hw.withNextId (isInitial_firstJob s c mode w) hk
  have hback := exec_giveBack_of_steady hw.withNextId s.organization false
  rw [exec_start]
  refine exec_bind_of_error ?_ _
  rw [createJob, exec_bind_of_ok (exec_attempt _ _), hcreate]
  simp only
  rw [exec_bind_of_ok hback]
  rfl

section New
variable (hw : w.Steady) (s : Submission) (c : Configuration)
  (hnew : w.store.jobs.get? (IdKind.job.id (w.ids + 1)) = none)
include hw hnew

theorem exec_createJob (mode : Mode) :
    exec (createJob s (s.firstJob c mode w)) w.withNextId =
      (w.begun (s.firstJob c mode w), .ok (s.firstJob c mode w)) := by
  have hcreate := Jobs.exec_create hw.withNextId (isInitial_firstJob s c mode w) hnew
  rw [createJob, exec_bind_of_ok (exec_attempt _ _), hcreate]
  rfl

variable [Host]

theorem exec_start_sync :
    let j := s.firstJob c .sync w
    let e := ending j c s.file s.fileName w.files
    exec (start s c .sync) w = ((w.begun j).closed j e, .ok ⟨.sync, e.outcome j w.time⟩) := by
  have hexecute := exec_execute (hw.begun (s.firstJob c .sync w)) (World.get?_begun w _) rfl
    c s.file s.fileName
  rw [exec_start, exec_bind_of_ok (exec_createJob hw s c hnew .sync), proceed,
    exec_bind_of_ok hexecute, exec_pure]
  rfl

/-- A job that is to be queued is published with its task. -/
theorem exec_start_queued (hpublish : (World.countCall .enqueue w.faults).2 = none) :
    let j := s.firstJob c .queued w
    exec (start s c .queued) w =
      ((w.begun j).published.withTask (s.task j), .ok ⟨.queued, ⟨j, none, none⟩⟩) := by
  intro j
  have henqueue := exec_enqueue (hw.begun j) (s.task j)
  rw [show (w.begun j).faults = w.faults from rfl, hpublish] at henqueue
  have hpublished : exec (publish s j) (w.begun j) =
      ((w.begun j).published.withTask (s.task j), .ok j) := by
    rw [publish, exec_bind_of_ok (exec_attempt _ _), henqueue]
    rfl
  rw [exec_start, exec_bind_of_ok (exec_createJob hw s c hnew .queued), proceed,
    exec_bind_of_ok hpublished, exec_pure]

/-- A job that cannot be queued has failed. -/
theorem exec_start_unqueued {f : Fault} (hpublish : (World.countCall .enqueue w.faults).2 = some f) :
    let j := s.firstJob c .queued w
    let e := failing w.files ("Failed to queue job: " ++ f.message) none
    exec (start s c .queued) w =
      ((w.begun j).published.closed j e, .ok ⟨.queued, e.outcome j w.time⟩) := by
  intro j e
  have henqueue := exec_enqueue (hw.begun j) (s.task j)
  rw [show (w.begun j).faults = w.faults from rfl, hpublish] at henqueue
  have hpublished : exec (publish s j) (w.begun j) =
      ((w.begun j).published.closed j e, .ok (e.outcome j w.time).job) := by
    rw [publish, exec_bind_of_ok (exec_attempt _ _), henqueue]
    exact exec_fail_bind (hw.begun j).published (World.get?_begun w j) rfl _ _
  rw [exec_start, exec_bind_of_ok (exec_createJob hw s c hnew .queued), proceed,
    exec_bind_of_ok hpublished, exec_pure]
  rfl

end New

end Submission

/-! ### A small submission -/

/-- A configuration that changes nothing. -/
def Configuration.copying : Configuration :=
  { id := "c", organization := "o", name := "copy", description := none, rules := [], output := {},
    version := 1, active := true, createdAt := none, updatedAt := none }

/-- The table `a,b` of one row, to be queued. -/
def Submission.smallTable : Submission :=
  { organization := "o", configuration := "c", file := ⟨[97, 44, 98, 10]⟩,
    fileName := "table.csv", async := true, callbackUrl := none, uid := none }

end Sheetflow
