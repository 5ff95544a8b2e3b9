import Sheetflow.Proofs.Service.Delivery
import Sheetflow.Proofs.Text.Base64

/-!
# Jobs that are queued end like jobs that are carried out at once

A submission can be carried out at once, or queued and delivered to a worker.  If nothing goes wrong
both come to the same (`Submission.queued_eq_sync`): the worlds differ in the queue only, and the job
that is reported is the same.
-/

namespace Sheetflow

open Service

namespace Service

theorem exec_bind_congr {α β : Type} {p : Service α} {w w' : World} (h : exec p w = exec p w')
    (f : α → Service β) : exec (p >>= f) w = exec (p >>= f) w' := by
  rw [exec_bind, exec_bind, h]

theorem exec_command_congr {c : Command} {w w' : World} (h : w.perform c = w'.perform c) :
    exec (command c) w = exec (command c) w' := by
  rw [exec_command, exec_command, h]

end Service

namespace World
variable {w : World}

/-- The world with a connection to the store. -/
def connect (w : World) : World := { w with connected := true }

/-- An operation on the store makes the connection. -/
theorem attempt_connect {ρ : Type} (w : World) {op : Operation} (hop : op.isOnStore = true)
    (act : World → World × Except Fault ρ) : w.connect.attempt op act = w.attempt op act := by
  unfold attempt connect
  simp only [hop, Bool.or_true]

theorem published_of_no_faults (h : w.faults = []) : w.published = w := by
  unfold published
  rw [h, countCall, ← h]

theorem closed_withTask (w : World) (t : Task) (j : Job) (e : Ending) :
    (w.withTask t).closed j e = (w.closed j e).withTask t := rfl

end World

namespace Submission
variable {w : World}

theorem exec_submit_connect [Host] (settings : Settings) (s : Submission) (w : World) :
    exec (submit settings s) w.connect = exec (submit settings s) w := by
  have hget (id : String) : exec (command (.getConfiguration id)) w.connect =
      exec (command (.getConfiguration id)) w :=
    exec_command_congr (by rw [World.perform, World.perform, World.attempt_connect w rfl])
  rw [submit_eq]
  exact exec_bind_congr (exec_bind_congr (exec_bind_congr (hget _) _) _) _

theorem exec_reserve_connect {s : Settings} (org : String) {size : Int}
    (hsize : Quota.sizeRefusal? s size = none) (w : World) :
    exec (Quota.reserve s org size) w.connect = exec (Quota.reserve s org size) w := by
  have hincrement (c : Counter) : exec (command (.increment c)) w.connect =
      exec (command (.increment c)) w :=
    exec_command_congr (by rw [World.perform, World.perform, World.attempt_connect w rfl])
  rw [Quota.reserve_of_size s org hsize, exec_bind_of_ok (exec_now _), exec_bind_of_ok (exec_now _)]
  exact exec_bind_congr (hincrement _) _

/-- Admission takes its units in the store. -/
theorem exists_took_of_allowed (hw : w.connect.Steady) {settings : Settings} {org : String}
    {size : Int}
    (h : ∃ counts, (exec (Quota.reserve settings org size) w).2 = .ok (.allowed counts)) :
    ∃ t counts,
      Quota.Took w.store (fun k => k = .active org ∨ k = Quota.monthly org w.time) t ∧
      exec (Quota.reserve settings org size) w.connect =
        (w.connect.withStore t, .ok (.allowed counts)) := by
  obtain ⟨counts, hallowed⟩ := h
  cases hsize : Quota.sizeRefusal? settings size with
  | some reason =>
    rw [Quota.reserve, hsize] at hallowed
    cases hallowed
  | none =>
    have hadmits := Quota.exec_reserve hw settings org size
    rw [← exec_reserve_connect org hsize] at hallowed
    generalize exec (Quota.reserve settings org size) w.connect = r at hadmits hallowed
    cases hadmits with
    | denied t reason counts ht => cases hallowed
    | allowed t counts ht within => exact ⟨t, counts, ht, rfl⟩

/-- Admission leaves the records in the store. -/
theorem exists_of_allowed (hw : w.connect.Steady) {settings : Settings} {org : String} {size : Int}
    (h : ∃ counts, (exec (Quota.reserve settings org size) w).2 = .ok (.allowed counts)) :
    ∃ t counts, w.store.SameRecords t ∧
      exec (Quota.reserve settings org size) w.connect =
        (w.connect.withStore t, .ok (.allowed counts)) := by
  obtain ⟨t, counts, ht, hreserve⟩ := exists_took_of_allowed hw h
  exact ⟨t, counts, ht.records, hreserve⟩

/-- An admitted submission starts. -/
theorem exec_submit_of_allowed [Host] {settings : Settings} {s : Submission} {c : Configuration}
    (hw : w.Steady)
    (hc : (w.store.configurations.get? s.configuration).filter
      (Configurations.isVisible s.organization false) = some c)
    (hname : FileName.isSupported s.fileName = true) {t : Store} {counts : Quota.Counts}
    (hreserve : exec (Quota.reserve settings s.organization s.file.size) w =
      (w.withStore t, .ok (.allowed counts))) :
    exec (submit settings s) w =
      exec (start s c (Mode.choose settings s.file.size s.async s.callbackUrl)) (w.withStore t) := by
  have hfind := exec_configurationFor hw s.organization s.configuration
  rw [hc] at hfind
  rw [submit_eq, exec_bind_of_ok hfind, if_pos hname, exec_bind_of_ok hreserve]

theorem publish_async (s : Submission) (j : Job) (async : Bool) :
    publish { s with async } j = publish s j := by
  unfold publish
  refine congrArg (_ >>= ·) (funext fun r => ?_)
  cases r <;> rfl

theorem createJob_async (s : Submission) (j : Job) (async : Bool) :
    createJob { s with async } j = createJob s j := rfl

/-- What the caller asked for counts for the mode only. -/
theorem start_async [Host] (s : Submission) (c : Configuration) (mode : Mode) (async : Bool) :
    start { s with async } c mode = start s c mode := by
  unfold start proceed
  simp only [publish_async, createJob_async]
  rfl

/-- A worker that takes a job finds it as it would have been if it had been carried out at once. -/
theorem taken_firstJob (s : Submission) (c : Configuration) (w w' : World) (ht : w'.time = w.time) :
    Task.taken w' (s.firstJob c .queued w) = s.firstJob c .sync w := by
  rw [Task.taken_eq, ht]
  rfl

/-- Taking a job that is queued leaves the world as if it had been carried out at once. -/
theorem started_begun (s : Submission) (c : Configuration) (w : World) (t : Task) :
    Task.started ((w.begun (s.firstJob c .queued w)).withTask t) (s.firstJob c .queued w) =
      (w.begun (s.firstJob c .sync w)).withTask t := by
  have hjobs : (w.store.jobs.set (s.firstJob c .queued w).id (s.firstJob c .queued w)).set
      (s.firstJob c .queued w).id (s.firstJob c .sync w) =
        w.store.jobs.set (s.firstJob c .sync w).id (s.firstJob c .sync w) :=
    Table.set_set _ _ _ _
  have htaken := taken_firstJob s c w ((w.begun (s.firstJob c .queued w)).withTask t) rfl
  rw [Task.started, htaken]
  unfold World.begun World.withTask World.withStore Jobs.added Store.indexJob
  simp only
  rw [hjobs]
  rfl

/-- The task of a job whose configuration is to be seen can be carried out. -/
theorem prepared_task {s : Submission} {c : Configuration} {j : Job} {t : Store}
    (hj : j.configuration = c.id) (hc : (t.configurations.get? c.id).filter
      (Configurations.isVisible s.organization false) = some c) :
    (s.task j).prepared t = .ok (c, s.file.contents) := by
  unfold Task.prepared task
  rw [hj, hc]
  simp only [Text.Base64.decode_encode]

/-- A worker ends a job that was just queued as it would have ended if it had been carried out at
once. -/
theorem exec_process_task [Host] (hw : w.Steady) {s : Submission} {c : Configuration}
    (hc : (w.store.configurations.get? c.id).filter
      (Configurations.isVisible s.organization false) = some c) :
    let queued := s.firstJob c .queued w
    let j := s.firstJob c .sync w
    let e := ending j c s.file s.fileName w.files
    exec (s.task queued).process ((w.begun queued).withTask (s.task queued)) =
      (((w.begun j).closed j e).withTask (s.task queued),
        .ok (.carriedOut (e.outcome j w.time).job)) := by
  intro queued j e
  have hw' : ((w.begun queued).withTask (s.task queued)).Steady := (hw.begun _).withTask _
  have htaken : Task.taken ((w.begun queued).withTask (s.task queued)) queued = j :=
    taken_firstJob s c w _ rfl
  have hprepared : (s.task queued).prepared (Jobs.added w.store queued) = .ok (c, s.file.contents) :=
    prepared_task rfl hc
  have hprocess := Task.exec_process_of_pending (t := s.task queued) hw'
    (World.get?_begun w queued) rfl rfl rfl
  rw [started_begun, htaken] at hprocess
  rw [hprocess]
  unfold Task.ending Task.report
  rw [show ((w.begun queued).withTask (s.task queued)).store = Jobs.added w.store queued from rfl,
    hprepared]
  simp only [World.closed_withTask, e]
  rfl

/-- What the two ways of carrying out an admitted submission come to: `w` is the world in which its
units were taken. -/
theorem start_queued_eq_start_sync [Host] (hw : w.Steady) (hfaults : w.faults = []) {s : Submission}
    {c : Configuration} (hc : (w.store.configurations.get? c.id).filter
      (Configurations.isVisible s.organization false) = some c)
    (hnew : w.store.jobs.get? (IdKind.job.id (w.ids + 1)) = none) :
    ∃ ws outcome wq waiting payload,
      exec (start s c .sync) w = (ws, .ok ⟨.sync, outcome⟩) ∧
      exec (start s c .queued) w = (wq, .ok ⟨.queued, waiting⟩) ∧
      wq.queue = w.queue ++ [payload] ∧
      exec (Task.processPayload payload) wq =
        ({ ws with queue := wq.queue, publications := wq.publications },
          .ok (.carriedOut outcome.job)) := by
  have hpublish : (World.countCall .enqueue w.faults).2 = none := by rw [hfaults]; rfl
  refine ⟨_, _, _, _, (s.task (s.firstJob c .queued w)).payload,
    exec_start_sync hw s c hnew, exec_start_queued hw s c hnew hpublish, rfl, ?_⟩
  rw [Task.exec_processPayload, World.published_of_no_faults (w := w.begun _) hfaults,
    exec_process_task hw hc]
  rfl

/-- **Queued and delivered, a submission ends as if it had been carried out at once**, if it is
admitted and nothing goes wrong on the way.  Afterwards only the queue tells the worlds apart: jobs,
files and counts are equal, and the worker reports the job that the submitter would have got. -/
theorem queued_eq_sync [Host] {w : World} (hfaults : w.faults = []) (hraces : w.races = [])
    {s : Submission} (hname : FileName.isSupported s.fileName = true) {c : Configuration}
    (hid : s.configuration = c.id) (hc : w.store.configurations.get? c.id = some c)
    (horg : c.organization = s.organization) (hactive : c.active = true)
    (hadmitted : ∃ counts, (exec (Quota.reserve w.settings s.organization s.file.size) w).2 =
      .ok (.allowed counts))
    (hsync : Mode.choose w.settings s.file.size false s.callbackUrl = .sync)
    (hnew : w.store.jobs.get? (IdKind.job.id (w.ids + 1)) = none) :
    ∃ ws outcome wq waiting payload,
      exec (submit w.settings { s with async := false }) w = (ws, .ok ⟨.sync, outcome⟩) ∧
      exec (submit w.settings { s with async := true }) w = (wq, .ok ⟨.queued, waiting⟩) ∧
      wq.queue = w.queue ++ [payload] ∧
      exec (Task.processPayload payload) wq =
        ({ ws with queue := wq.queue, publications := wq.publications },
          .ok (.carriedOut outcome.job)) := by
  have hw : w.connect.Steady := by
    refine ⟨hraces, fun f hf => ?_, rfl⟩
    rw [show w.connect.faults = [] from hfaults] at hf
    cases hf
  have hvisible : (w.store.configurations.get? c.id).filter
      (Configurations.isVisible s.organization false) = some c := by
    rw [hc, Option.filter_some, if_pos]
    rw [Configurations.isVisible, horg, hactive]
    simp
  obtain ⟨t, counts, hrecords, hreserve⟩ := exists_of_allowed hw hadmitted
  have hw' := hw.withStore t
  obtain ⟨ws, outcome, wq, waiting, payload, hws, hwq, hqueue, hprocess⟩ :=
    start_queued_eq_start_sync (w := w.connect.withStore t) hw' hfaults
      (by rw [World.withStore_store, hrecords.configurations]; exact hvisible)
      (by rw [World.withStore_store, hrecords.jobs]; exact hnew)
  have hsubmit (async : Bool) : exec (submit w.settings { s with async }) w =
      exec (start s c (Mode.choose w.settings s.file.size async s.callbackUrl))
        (w.connect.withStore t) := by
    have hfound : (w.connect.store.configurations.get? s.configuration).filter
        (Configurations.isVisible s.organization false) = some c := by
      rw [hid]
      exact hvisible
    rw [← exec_submit_connect,
      exec_submit_of_allowed (s := { s with async }) hw hfound hname hreserve, start_async]
  have hqueued : Mode.choose w.settings s.file.size true s.callbackUrl = .queued := by
    rw [Mode.choose, Bool.true_or, Bool.true_or, if_pos rfl]
  refine ⟨ws, outcome, wq, waiting, payload, ?_, ?_, hqueue, hprocess⟩
  · rw [hsubmit, hsync, hws]
  · rw [hsubmit, hqueued, hwq]

/-- A small table is admitted. -/
theorem smallTable_admitted :
    let w : World := { clock := 0, store := { configurations := [("c", .copying)] } }
    ∃ counts, (exec (Quota.reserve w.settings smallTable.organization smallTable.file.size) w).2 =
      .ok (.allowed counts) := by
  intro w
  have h : (exec (Quota.reserve w.settings smallTable.organization smallTable.file.size) w).2.toOption =
      some (.allowed ⟨some 1, some 1⟩) := by decide +kernel
  cases hr : (exec (Quota.reserve w.settings smallTable.organization smallTable.file.size) w).2 with
  | error e =>
    rw [hr] at h
    cases h
  | ok d =>
    rw [hr] at h
    exact ⟨_, congrArg Except.ok (Option.some.inj h)⟩

section
attribute [local instance] Host.bare

/-- A small table is copied at once, or by a worker. -/
theorem queued_eq_sync_small_table :
    let w : World := { clock := 0, store := { configurations := [("c", .copying)] } }
    ∃ ws outcome wq waiting payload,
      exec (submit w.settings { smallTable with async := false }) w = (ws, .ok ⟨.sync, outcome⟩) ∧
      exec (submit w.settings { smallTable with async := true }) w = (wq, .ok ⟨.queued, waiting⟩) ∧
      wq.queue = w.queue ++ [payload] ∧
      exec (Task.processPayload payload) wq =
        ({ ws with queue := wq.queue, publications := wq.publications },
          .ok (.carriedOut outcome.job)) := by
  intro w
  exact queued_eq_sync (w := w) rfl rfl (s := smallTable) (by decide +kernel)
    (c := .copying) rfl rfl rfl rfl smallTable_admitted (by decide +kernel) rfl

end

end Submission

end Sheetflow
