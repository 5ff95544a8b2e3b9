import Sheetflow.Proofs.Service.Artifacts
import Sheetflow.Proofs.Service.Calls
import Sheetflow.Proofs.Service.Links
import Sheetflow.Proofs.Service.Modes
import Sheetflow.Web.Endpoint

/-!
# Answers to files that are handed in

A file that is handed in and transformed at once is answered from four places: what the run gave, the
log of the job, its record and its artifact.  They agree (`Transforms.answer_agrees`): the answer
carries the output if and only if the job was completed, and then the output is the artifact and what
the run gave; otherwise it says why the job failed, and nothing is kept for it but its record.
-/

namespace Sheetflow

open Service

namespace Web

/-! ### Requests that are responded to -/

/-- What a request comes to whose endpoint is known. -/
theorem run_respond [Host] {s : Settings} {r : Request} (found : List (String × Endpoint))
    {e : Endpoint}
    (hpath : Endpoint.all r.path = found) (hfound : found.lookup r.method = some e) {w w' : World}
    {response : Response} (h : exec (e.handle s r) w = (w', .ok response)) :
    (respond s r).run w = (w', response) := by
  unfold respond
  cases found with
  | nil => cases hfound
  | cons first rest =>
    rw [hpath]
    simp only [hfound]
    rw [Program.run_bind]
    unfold exec at h
    rw [h]
    rfl

end Web

namespace Web.Transforms

open Submission

/-- In this world nothing goes wrong, and the request hands in a submission that is admitted and
carried out at once with this configuration; the id of its job is new. -/
structure HandsIn (w : World) (r : Request) (s : Submission) (c : Configuration) : Prop where
  faults : w.faults = []
  races : w.races = []
  method : r.method = "POST"
  path : r.path = "/api/transform"
  accepted : accept r (parameters r) =
    .ok (s.organization, ⟨s.fileName, s.file⟩, s.configuration, s.async, s.callbackUrl, s.uid)
  named : s.fileName ≠ ""
  visible : (w.store.configurations.get? s.configuration).filter
    (Configurations.isVisible s.organization false) = some c
  supported : FileName.isSupported s.fileName = true
  admitted : ∃ counts, (exec (Quota.reserve w.settings s.organization s.file.size) w).2 =
    .ok (.allowed counts)
  sync : Mode.choose w.settings s.file.size s.async s.callbackUrl = .sync
  newJob : w.store.jobs.get? (IdKind.job.id (w.ids + 1)) = none
  newPath : ∀ p bs, w.files.HasFile p bs → ¬ [s.organization, IdKind.job.id (w.ids + 1)] <+: p

/-- The answer `v` to a completed job: what the run gave, in the format of the configuration, is what
is stored and what is answered; the warnings are those of the run, and one more if characters were
lost. -/
structure Answers [Host] (w : World) (j : Job) (c : Configuration) (r : RunResult) (v : Value) :
    Prop where
  output : ∃ ref text, j.outputRef = some ref ∧
    exec (Outputs.read ref) w = (w, .ok (c.outputBytes r.matrix).bytes) ∧
    v.get? "csv_base64" = some (.str text) ∧
    Text.Base64.decode text = .ok (c.outputBytes r.matrix).bytes
  applied : v.get? "applied" = some (Value.texts r.applied)
  warnings : v.get? "warnings" = some (Value.texts (r.warnings ++
    if (c.outputBytes r.matrix).lossy then [lossWarning c] else []))

/-- The answer `v` to a job that failed: it says what the record says. -/
def Explains (j : Job) (v : Value) : Prop :=
  ∃ message, j.errorMessage = some message ∧
    (v.get? "detail").bind (·.get? "message") = some (.str message)

/-- A job was not completed, and the response says so: there is a reason, the record has it, what was
taken for the job is handed back, and there is no file for it. -/
structure Refuses [Host] (w w' : World) (s : Submission) (c : Configuration) (j : Job)
    (response : Response) : Prop where
  status : response.status = 422
  failed : j.status = .failed ∧ j.outputRef = none
  reason : Fails w.files j c s.file s.fileName
  message : ∃ v, response.content = .json v ∧ Explains j v
  handedBack : ∀ k, w'.store.count k =
    if k = .active s.organization ∨ k = Quota.monthly s.organization w.time
    then max 0 (w.store.count k) else w.store.count k
  noFile : ∀ p bs, w'.files.HasFile p bs → ¬ [s.organization, j.id] <+: p

/-- A job was completed, and the response carries what the run gave and what is stored. -/
def Delivers [Host] (w' : World) (s : Submission) (c : Configuration) (j : Job)
    (response : Response) :
    Prop :=
  ∃ run v, c.transform s.file s.fileName = .ok run ∧ run.aborted = false ∧
    response.content = .json v ∧ Answers w' j c run v

variable {w : World} {r : Request} {s : Submission} {c : Configuration}

/-- What becomes of the submission: its units were taken in a world in which its job has ended
then. -/
theorem HandsIn.exec_submit [Host] (h : HandsIn w r s c) :
    let j := s.firstJob c .sync w
    let e := ending j c s.file s.fileName w.files
    ∃ w₁ : World, w₁.files = w.files ∧ w₁.time = w.time ∧
      (∀ k, w₁.store.count k = w.store.count k +
        if k = .active s.organization ∨ k = Quota.monthly s.organization w.time then 1 else 0) ∧
      exec (Submission.submit w.settings s) w =
        (w₁.closed j e, .ok ⟨.sync, e.outcome j w.time⟩) := by
  have hw : w.connect.Steady := by
    refine ⟨h.races, fun f hf => ?_, rfl⟩
    rw [show w.connect.faults = [] from h.faults] at hf
    cases hf
  obtain ⟨t, counts, htook, hreserve⟩ := exists_took_of_allowed hw h.admitted
  have hnew : (w.connect.withStore t).store.jobs.get? (IdKind.job.id (w.ids + 1)) = none := by
    rw [World.withStore_store, htook.records.jobs]
    exact h.newJob
  refine ⟨(w.connect.withStore t).begun (s.firstJob c .sync w), rfl, rfl, htook.counts, ?_⟩
  rw [← exec_submit_connect, exec_submit_of_allowed hw h.visible h.supported hreserve, h.sync]
  exact exec_start_sync (hw.withStore t) s c hnew

/-- The units that were taken for a job that failed are handed back; no counter is left below zero. -/
theorem count_closed_of_failed {w₁ : World} {j : Job} {e : Ending} (he : e.target = .failed)
    (htime : w₁.time = w.time)
    (hcounts : ∀ k, w₁.store.count k = w.store.count k +
      if k = .active j.organization ∨ k = Quota.monthly j.organization w.time then 1 else 0)
    (k : Counter) :
    (w₁.closed j e).store.count k =
      if k = .active j.organization ∨ k = Quota.monthly j.organization w.time
      then max 0 (w.store.count k) else w.store.count k := by
  rw [World.count_closed, hcounts, htime, he]
  by_cases hc : k = .active j.organization ∨ k = Quota.monthly j.organization w.time
  · simp only [hc, ne_eq, reduceCtorEq, not_false_eq_true, and_true, if_true]
    omega
  · simp [hc]

/-- The route answers what the submission came to. -/
theorem HandsIn.exec_handle [Host] (h : HandsIn w r s c) {w' : World} {o : JobOutcome}
    (hsubmit : exec (Submission.submit w.settings s) w = (w', .ok ⟨.sync, o⟩)) :
    exec (Endpoint.transform.handle w.settings r) w =
      exec (if o.job.status = .completed then completed w.settings o.job
        else pure (failed o.job)) w' := by
  have hattempt : exec (attempt (Submission.submit w.settings s)) w = (w', .ok (.ok ⟨.sync, o⟩)) := by
    rw [exec_attempt, hsubmit]
  show exec (Transforms.submit w.settings r) w = _
  unfold Transforms.submit
  rw [h.accepted]
  simp only
  rw [if_neg h.named]
  exact exec_bind_of_ok hattempt _

/-- The answer to a completed job whose reference leads to its artifact. -/
theorem exec_completed [Host] (settings : Settings) {j : Job} {ref : String} {bs : Bytes} {p : Path}
    (href : j.outputRef = some ref) (h : Outputs.Leads w.files ref bs p) :
    exec (completed settings j) w =
      (w, .ok (.json 200 (answer j .sync (some (Outputs.linkAt settings ref settings.syncLifetime w.time))
        (.str (Text.Base64.encode bs)) (logPart j "applied") (logPart j "warnings")))) := by
  have hread : exec (attempt (Outputs.read ref)) w = (w, .ok (.ok bs)) := by
    rw [exec_attempt, Outputs.exec_read h]
  unfold completed
  rw [href, Option.getD_some, exec_bind_of_ok (Outputs.exec_link settings ref _ w),
    exec_bind_of_ok hread]
  rfl

theorem answers_delivered [Host] {w' : World} (j : Job) (t : DateTime) (run : RunResult)
    (files : FileTree)
    {ref : String} {p : Path} (link : Outputs.Link)
    (h : Outputs.Leads w'.files ref (c.outputBytes run.matrix).bytes p) :
    let done := j.moved .completed t (delivered c files run ref).fields
    Answers w' done c run (answer done .sync (some link)
      (.str (Text.Base64.encode (c.outputBytes run.matrix).bytes)) (logPart done "applied")
      (logPart done "warnings")) where
  output := ⟨ref, _, rfl, Outputs.exec_read h, rfl, Text.Base64.decode_encode _⟩
  applied := rfl
  warnings := rfl

theorem explains_failing (j : Job) (t : DateTime) (files : FileTree) (message : String)
    (run : Option RunResult) :
    let done := j.moved .failed t (failing files message run).fields
    done.status = .failed ∧ done.outputRef = j.outputRef ∧
      ∃ v, (failed done).content = .json v ∧ Explains done v := by
  cases run <;> exact ⟨rfl, rfl, _, rfl, message, rfl, rfl⟩

/-- The response to a request that hands in a file is the one to what its submission came to. -/
theorem HandsIn.run_respond [Host] (h : HandsIn w r s c) {w' w'' : World} {o : JobOutcome}
    {response : Response} (hsubmit : exec (Submission.submit w.settings s) w = (w', .ok ⟨.sync, o⟩))
    (hanswer : exec (if o.job.status = .completed then completed w.settings o.job
      else pure (failed o.job)) w' = (w'', .ok response)) :
    (respond w.settings r).run w = (w'', response) := by
  refine Web.run_respond [("POST", .transform)] (e := .transform) ?_ ?_
    ((h.exec_handle hsubmit).trans hanswer)
  · rw [h.path]
    rfl
  · rw [h.method]
    rfl

/-- A job that was not completed is answered by what is said about it. -/
theorem HandsIn.run_respond_of_failed [Host] (h : HandsIn w r s c) {w' : World} {o : JobOutcome}
    (hsubmit : exec (Submission.submit w.settings s) w = (w', .ok ⟨.sync, o⟩))
    (hne : o.job.status ≠ .completed) :
    (respond w.settings r).run w = (w', failed o.job) := by
  refine h.run_respond hsubmit ?_
  rw [if_neg hne, exec_pure]

/-- **The answer agrees with the record, the run and the files**: it is positive if and only if the
job was completed, and then carries the artifact, which is what the run gave.  Otherwise it carries
the message of the job, what was taken for the job is handed back, and there is no file for it. -/
theorem answer_agrees [Host] (h : HandsIn w r s c) :
    ∃ w' response j, (respond w.settings r).run w = (w', response) ∧
      w'.store.jobs.get? (IdKind.job.id (w.ids + 1)) = some j ∧ j.id = IdKind.job.id (w.ids + 1) ∧
      (response.status = 200 ↔ j.status = .completed) ∧
      (j.status = .completed → Delivers w' s c j response) ∧
      (j.status ≠ .completed → Refuses w w' s c j response) := by
  obtain ⟨w₁, hfiles, htime, hcounts, hsubmit⟩ := h.exec_submit
  generalize hj : s.firstJob c .sync w = j at hsubmit
  have hid : j.id = IdKind.job.id (w.ids + 1) := by rw [← hj]; rfl
  have horg : j.organization = s.organization := by rw [← hj]; rfl
  have href : j.outputRef = none := by rw [← hj]; rfl
  have hget (e : Ending) : (w₁.closed j e).store.jobs.get? (IdKind.job.id (w.ids + 1)) =
      some (j.moved e.target w.time e.fields) := by
    rw [World.jobs_closed, htime, hid]
    exact Table.get?_set_self _ _ _
  obtain ⟨hmoved, horg', -⟩ := (finish_ending j c s.file s.fileName w.files).moved_keeps j w.time
  rcases ending_cases j c s.file s.fileName w.files with
    ⟨run, files, p, htransform, hrun, hending, hleads, -⟩ | ⟨files, message, run, hending, hfails, hkept⟩
  all_goals rw [hending] at hsubmit hmoved horg'
  · generalize Outputs.refOf _ _ _ = ref at hsubmit hleads hmoved horg'
    have hanswer := exec_completed w.settings (w := w₁.closed j (delivered c files run ref))
      (j := j.moved .completed w.time (delivered c files run ref).fields) rfl hleads
    refine ⟨_, _, _, h.run_respond hsubmit hanswer, hget _, hmoved.trans hid, iff_of_true rfl rfl,
      fun _ => ⟨run, _, htransform, hrun, rfl, answers_delivered _ _ _ _ _ hleads⟩,
      fun hne => absurd rfl hne⟩
  · obtain ⟨hfailed, hnoref, hexplains⟩ := explains_failing j w.time files message run
    have hne : ((failing files message run).outcome j w.time).job.status ≠ .completed :=
      fun hc => JobStatus.noConfusion (hfailed.symm.trans hc)
    refine ⟨_, _, _, h.run_respond_of_failed hsubmit hne, hget _, hmoved.trans hid,
      ⟨nofun, fun hc => absurd hc hne⟩, fun hc => absurd hc hne, fun _ => ?_⟩
    exact {
      status := rfl
      failed := ⟨hfailed, hnoref.trans href⟩
      reason := hfails.congr horg' hmoved
      message := hexplains
      handedBack := horg ▸ count_closed_of_failed rfl htime (horg ▸ hcounts)
      noFile := fun q bs hq => by
        rw [hmoved, hid]
        exact h.newPath q bs ((hkept q bs).mp hq) }

/-- The request that hands in a small table. -/
def smallTableRequest : Request where
  method := "POST"
  path := "/api/transform"
  query := []
  headers := [("x-organization-id", "o")]
  body := .parts [("config_id", "c")] [("file", ⟨"table.csv", ⟨[97, 44, 98, 10]⟩⟩)]

section
attribute [local instance] Host.bare

/-- A small table is handed in, copied and answered. -/
theorem answer_agrees_small_table :
    let w : World := { clock := 0, store := { configurations := [("c", .copying)] } }
    let s : Submission := { Submission.smallTable with async := false }
    HandsIn w smallTableRequest s .copying ∧
      ∃ w' response j, (respond w.settings smallTableRequest).run w = (w', response) ∧
        j.status = .completed ∧ response.status = 200 ∧ Delivers w' s .copying j response := by
  intro w s
  have h : HandsIn w smallTableRequest s .copying := {
    faults := rfl
    races := rfl
    method := rfl
    path := rfl
    accepted := by rfl
    named := by decide
    visible := rfl
    supported := by decide +kernel
    admitted := smallTable_admitted
    sync := by decide +kernel
    newJob := rfl
    newPath := nofun }
  obtain ⟨w', response, j, hrun, hget, -, hstatus, hdelivers, -⟩ := answer_agrees h
  have hcompleted : j.status = .completed := by
    have hstored : (((respond w.settings smallTableRequest).run w).1.store.jobs.get?
        (IdKind.job.id (w.ids + 1))).map Job.status = some .completed := by decide +kernel
    rw [hrun, hget] at hstored
    exact Option.some.inj hstored
  exact ⟨h, w', response, j, hrun, hcompleted, hstatus.mpr hcompleted, hdelivers hcompleted⟩

end

end Web.Transforms

end Sheetflow
