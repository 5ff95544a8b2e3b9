import Sheetflow.Proofs.Service.Tenants

/-!
# Submissions make all or nothing

A submission is refused at one of four places, and at two of them units of the counts were taken before.
Whichever it is, nothing is left of it (`World.Untouched`).  One that is answered has made one job, which
is indexed once, for its organization, and queued if that was to be done and went well
(`Submission.Made`).

Units are given back by counting down to zero, so this rests on counts that are not negative, and on
indexes that hold stored jobs only (`World.Ordered`).  Both are so in every world that is reached
(`World.ordered_calls`).
-/

namespace Sheetflow

open Service

namespace World
variable {w w' : World}

/-- Worlds in which the store answers, everything belongs to somebody and no count is negative. -/
structure Ordered (w : World) : Prop where
  steady : w.Steady
  owned : w.Owned
  nonneg : ∀ k, 0 ≤ w.store.count k

theorem visits_call [Host] (w : World) (cs : List Call) : w.visits (cs.map .call) = w.calls cs := by
  rw [visits, calls, List.foldl_map]
  rfl

/-- Every world that is reached is in order. -/
theorem ordered_calls [Host] (settings : Settings) (start : Instant) (cs : List Call) :
    ((empty settings start).calls cs).Ordered := by
  have hsound := sound_calls settings start cs
  refine ⟨hsound.steady, ?_, hsound.nonneg⟩
  rw [← visits_call]
  exact owned_visits settings start _

/-- Records, counts, queue and files are as they were. -/
structure Untouched (w w' : World) : Prop where
  records : w.store.SameRecords w'.store
  counts : ∀ k, w'.store.count k = w.store.count k
  queue : w'.queue = w.queue
  publications : w'.publications = w.publications
  files : w'.files = w.files

theorem Untouched.refl (w : World) : w.Untouched w := ⟨.rfl' _, fun _ => rfl, rfl, rfl, rfl⟩

theorem Untouched.of_store {t : Store} (hrecords : w.store.SameRecords t)
    (hcounts : ∀ k, t.count k = w.store.count k) : w.Untouched (w.withStore t) :=
  ⟨hrecords, hcounts, rfl, rfl, rfl⟩

theorem Ordered.sound (h : w.Ordered) : w.Sound := by
  refine ⟨h.steady, h.nonneg, h.owned.store.jobs, fun p hp => ?_⟩
  obtain ⟨t, ht, j, hj, horg⟩ := h.owned.queued p hp
  exact ⟨t, j, ht, hj, horg⟩

end World

/-! ### New jobs in indexes -/

namespace Store
variable {s : Store} {id org : String}

theorem Owned.ne_of_mem_indexedJobs (h : s.Owned) (hnew : s.jobs.get? id = none) {e : IndexedJob}
    (he : e ∈ s.indexedJobs org) : e.id ≠ id := by
  obtain ⟨j, hj, -⟩ := h.indexedJobs org e he
  rintro rfl
  rw [hnew] at hj
  cases hj

theorem indexedJobs_indexJob (s : Store) (org other : String) (entry : IndexedJob) :
    (s.indexJob org entry).indexedJobs other =
      if other = org then (s.indexedJobs org).filter (fun e => e.id ≠ entry.id) ++ [entry]
      else s.indexedJobs other :=
  indexedJobs_set s org other _

/-- A new job comes to the index of its organization, and to no other. -/
theorem Owned.indexedJobs_added (h : s.Owned) {j : Job} (hnew : s.jobs.get? j.id = none)
    (org : String) :
    (Jobs.added s j).indexedJobs org =
      s.indexedJobs org ++ if org = j.organization then [⟨j.id, j.createdAt⟩] else [] := by
  have hothers : (s.indexedJobs j.organization).filter (fun e => e.id ≠ j.id) =
      s.indexedJobs j.organization :=
    List.filter_eq_self.mpr fun e he => decide_eq_true (h.ne_of_mem_indexedJobs hnew he)
  rw [Jobs.added, indexedJobs_indexJob]
  split
  · rename_i horg
    rw [horg]
    exact congrArg (· ++ [_]) hothers
  · rw [List.append_nil]
    rfl

end Store

/-! ### The two ways a submission ends -/

namespace Submission
variable {w w' : World} {s : Submission}

/-- Why a submission is refused. -/
inductive Refused (s : Submission) (w : World) : ServiceError → Prop
  | noConfiguration
    (missing : (w.store.configurations.get? s.configuration).filter
      (Configurations.isVisible s.organization false) = none) :
    Refused s w (.noConfiguration s.configuration)
  | unsupported (name : FileName.isSupported s.fileName = false) :
    Refused s w (.unsupportedFile s.fileName)
  | denied (reason : String) : Refused s w (.denied reason)
  /-- The next id is in use. -/
  | taken (j : Job) (stored : w.store.jobs.get? (IdKind.job.id (w.ids + 1)) = some j) :
    Refused s w (.jobExists (IdKind.job.id (w.ids + 1)))

/-- What a submission has made that was answered. -/
structure Made (s : Submission) (w w' : World) (out : Submitted) : Prop where
  new : w.store.jobs.get? out.outcome.job.id = none
  /-- There is one job more. -/
  jobs : w'.store.jobs = w.store.jobs ++ [(out.outcome.job.id, out.outcome.job)]
  owner : out.outcome.job.organization = s.organization
  /-- It is in the index of the organization, and in no other. -/
  indexed : ∀ org, w'.store.indexedJobs org = w.store.indexedJobs org ++
    if org = s.organization then [⟨out.outcome.job.id, out.outcome.job.createdAt⟩] else []
  notIndexed : ∀ org, ∀ e ∈ w.store.indexedJobs org, e.id ≠ out.outcome.job.id
  configurations : w'.store.configurations = w.store.configurations
  configurationIndex : w'.store.configurationIndex = w.store.configurationIndex
  /-- A task for it was published if it was to be queued and the publishing did not fail. -/
  queue : w'.queue = w.queue ++
    if out.mode = .queued ∧ (World.countCall .enqueue w.faults).2 = none then
      [(s.task out.outcome.job).payload]
    else []

/-- The job is indexed once. -/
theorem Made.countP_indexed {out : Submitted} (h : s.Made w w' out) (org : String) :
    (w'.store.indexedJobs org).countP (fun e => e.id = out.outcome.job.id) =
      if org = s.organization then 1 else 0 := by
  have hbefore : (w.store.indexedJobs org).countP (fun e => e.id = out.outcome.job.id) = 0 :=
    List.countP_eq_zero.mpr fun e he => by simpa using h.notIndexed org e he
  rw [h.indexed, List.countP_append, hbefore, Nat.zero_add]
  split
  · simp
  · rfl

/-- What a new job is in the store, whether it has ended already or not. -/
theorem made_of_added (h : w.Owned) {t : Store} (ht : w.store.SameRecords t) {j : Job}
    {out : Submitted} (hnew : w.store.jobs.get? j.id = none) (howner : j.organization = s.organization)
    (hid : out.outcome.job.id = j.id) (horg : out.outcome.job.organization = j.organization)
    (hcreated : out.outcome.job.createdAt = j.createdAt)
    (hrecords : Store.SameRecords
      { Jobs.added t j with jobs := (Jobs.added t j).jobs.set j.id out.outcome.job } w'.store)
    (hqueue : w'.queue = w.queue ++
      if out.mode = .queued ∧ (World.countCall .enqueue w.faults).2 = none then
        [(s.task out.outcome.job).payload]
      else []) : s.Made w w' out := by
  have hjobs : w'.store.jobs = w.store.jobs.set j.id out.outcome.job := by
    rw [hrecords.jobs, ← ht.jobs]
    exact Table.set_set _ _ _ _
  have hindexed (org : String) : w'.store.indexedJobs org = (Jobs.added w.store j).indexedJobs org := by
    rw [Store.indexedJobs, Store.indexedJobs, hrecords.jobIndex]
    simp only [Jobs.added, Store.indexJob, Store.indexedJobs, ht.jobIndex]
  refine ⟨hid ▸ hnew, ?_, horg.trans howner, fun org => ?_, fun org e he => ?_,
    hrecords.configurations.trans ht.configurations,
    hrecords.configurationIndex.trans ht.configurationIndex, hqueue⟩
  · rw [hjobs, hid, Table.set_of_get?_none hnew]
  · rw [hindexed, h.store.indexedJobs_added hnew, hid, hcreated, howner]
  · rw [hid]
    exact h.store.ne_of_mem_indexedJobs hnew he

/-- A job that has ended when its submission is answered. -/
theorem made_of_ended (h : w.Owned) {t : Store} (ht : w.store.SameRecords t) {c : Configuration}
    {mode : Mode} {e : Ending} (he : Finish e.target e.fields)
    (hnew : w.store.jobs.get? (s.firstJob c mode w).id = none) (w₁ : World)
    (hstore : w₁.store = Jobs.added t (s.firstJob c mode w)) (hqueue : w₁.queue = w.queue)
    (hmode : ¬ (mode = .queued ∧ (World.countCall .enqueue w.faults).2 = none)) :
    s.Made w (w₁.closed (s.firstJob c mode w) e) ⟨mode, e.outcome (s.firstJob c mode w) w₁.time⟩ := by
  obtain ⟨hid, horg, hcreated⟩ := he.moved_keeps (s.firstJob c mode w) w₁.time
  refine made_of_added h ht hnew rfl hid horg hcreated ?_ ?_
  · have hended : (w₁.ended (s.firstJob c mode w) e).store =
        { Jobs.added t (s.firstJob c mode w) with
          jobs := (Jobs.added t (s.firstJob c mode w)).jobs.set (s.firstJob c mode w).id
            (e.outcome (s.firstJob c mode w) w₁.time).job } := by
      rw [← hstore]
      rfl
    rw [← hended]
    exact .returned _ _ _ _
  · rw [if_neg hmode, List.append_nil]
    exact hqueue

/-- What an admitted submission comes to. -/
theorem start_all_or_nothing [Host] (h : w.Ordered) {t : Store}
    (ht : Quota.Took w.store
      (fun k => k = .active s.organization ∨ k = Quota.monthly s.organization w.time) t)
    (c : Configuration) (mode : Mode) :
    (∃ w' e, exec (start s c mode) (w.withStore t) = (w', .error e) ∧ s.Refused w e ∧
        w.Untouched w') ∨
      ∃ w' out, exec (start s c mode) (w.withStore t) = (w', .ok out) ∧ out.mode = mode ∧
        s.Made w w' out := by
  have hw := h.steady.withStore t
  cases hid : t.jobs.get? (IdKind.job.id (w.ids + 1)) with
  | some k =>
    have hrecords : w.store.SameRecords (t.returned s.organization w.time false) :=
      ht.records.trans (.returned _ _ _ _)
    have hcounts := World.count_returned_of_took h.sound ht
    refine .inl ⟨_, _, exec_start_of_exists hw s c mode hid, .taken k ?_,
      hrecords, hcounts, rfl, rfl, rfl⟩
    rw [← ht.records.jobs]
    exact hid
  | none =>
    have hnew : w.store.jobs.get? (s.firstJob c mode w).id = none := by
      rw [← ht.records.jobs]
      exact hid
    right
    cases mode with
    | sync =>
      have hfinish := finish_ending (s.firstJob c .sync w) c s.file s.fileName w.files
      exact ⟨_, _, exec_start_sync hw s c hid, rfl, made_of_ended h.owned ht.records hfinish hnew
        ((w.withStore t).begun (s.firstJob c .sync w)) rfl rfl fun hq => nomatch hq.1⟩
    | queued =>
      cases hpublish : (World.countCall .enqueue w.faults).2 with
      | some f =>
        have hfinish : Finish (failing w.files ("Failed to queue job: " ++ f.message) none).target
            (failing w.files ("Failed to queue job: " ++ f.message) none).fields := .failed _ _
        exact ⟨_, _, exec_start_unqueued hw s c hid hpublish, rfl, made_of_ended h.owned ht.records
          hfinish hnew ((w.withStore t).begun (s.firstJob c .queued w)).published rfl rfl
          fun hq => Option.some_ne_none f (hpublish.symm.trans hq.2)⟩
      | none =>
        refine ⟨_, _, exec_start_queued hw s c hid hpublish, rfl, ?_⟩
        -- the job is stored as it was made
        have hsame : ((w.withStore t).begun (s.firstJob c .queued w)).store.jobs =
            (Jobs.added t (s.firstJob c .queued w)).jobs.set (s.firstJob c .queued w).id
              (s.firstJob c .queued w) := (Table.set_set _ _ _ _).symm
        refine made_of_added h.owned ht.records hnew rfl rfl rfl rfl ⟨rfl, rfl, hsame, rfl⟩ ?_
        rw [if_pos ⟨rfl, hpublish⟩]
        rfl

/-- **A submission makes all or nothing.**  It is refused, and records, counts, queue and files are as
they were; or it is answered, and there is one new job, indexed for its organization only, and a task for
it if it was to be queued and the publishing did not fail. -/
theorem submit_all_or_nothing [Host] (h : w.Ordered) (settings : Settings) (s : Submission) :
    (∃ w' e, exec (submit settings s) w = (w', .error e) ∧ s.Refused w e ∧ w.Untouched w') ∨
      ∃ w' out, exec (submit settings s) w = (w', .ok out) ∧
        out.mode = Mode.choose settings s.file.size s.async s.callbackUrl ∧ s.Made w w' out := by
  have hfind := exec_configurationFor h.steady s.organization s.configuration
  rw [submit_eq]
  cases hc : (w.store.configurations.get? s.configuration).filter
    (Configurations.isVisible s.organization false) with
  | none =>
    rw [hc] at hfind
    exact .inl ⟨_, _, exec_bind_of_error hfind _, .noConfiguration hc, .refl w⟩
  | some c =>
    rw [hc] at hfind
    rw [exec_bind_of_ok hfind]
    cases hname : FileName.isSupported s.fileName with
    | false =>
      rw [if_neg Bool.false_ne_true]
      exact .inl ⟨w, _, rfl, .unsupported hname, .refl w⟩
    | true =>
      have hadmits := Quota.exec_reserve h.steady settings s.organization s.file.size
      rw [if_pos rfl, exec_bind]
      generalize exec (Quota.reserve settings s.organization s.file.size) w = r at hadmits
      cases hadmits with
      | denied t reason counts ht =>
        refine .inl ⟨_, _, rfl, .denied _, .of_store ht.records fun k => ?_⟩
        rw [ht.counts, if_neg not_false, Int.add_zero]
      | allowed t counts ht within => exact start_all_or_nothing h ht c _

section
attribute [local instance] Host.bare

/-- One submission is queued, and one is refused because it asks for a configuration that is not there. -/
theorem submit_all_or_nothing_small_table :
    let w := (World.empty {} 0).calls [.save .copying]
    let s := { smallTable with configuration := "d" }
    (∃ w' out, exec (submit {} smallTable) w = (w', .ok out) ∧ out.mode = .queued ∧
        smallTable.Made w w' out) ∧
      ∃ w' e, exec (submit {} s) w = (w', .error e) ∧ s.Refused w e ∧ w.Untouched w' := by
  intro w s
  have h : w.Ordered := World.ordered_calls {} 0 [.save .copying]
  have hok : (exec (submit {} smallTable) w).2.isOk = true := by decide +kernel
  have herror : (exec (submit {} s) w).2.isOk = false := by decide +kernel
  constructor
  · obtain ⟨w', e, hexec, -⟩ | hmade := submit_all_or_nothing h {} smallTable
    · rw [hexec] at hok
      cases hok
    · exact hmade
  · obtain hrefused | ⟨w', out, hexec, -⟩ := submit_all_or_nothing h {} s
    · exact hrefused
    · rw [hexec] at herror
      cases herror

end

end Submission

end Sheetflow
