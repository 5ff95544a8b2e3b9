import Sheetflow.Proofs.Service.Delivery

/-!
# Sequences of calls

The services are called from outside, the clock moves on, publishing may fail, and the store drops
counts whose lifetime is over.  `World.Step` lists all that one call can do to jobs, queue and
counts: nothing, a job that is queued, a job that has ended when its submission is answered, or a
queued job that a worker carries out.  What every such step preserves holds after any sequence of
calls that starts in the empty world (`World.calls_induction`).
-/

namespace Sheetflow

open Service

/-- A call from outside, or something that happens by itself. -/
inductive Call where
  | submit (s : Submission)
  /-- The payload that was published after `n` others is given to a worker, maybe once more. -/
  | deliver (n : Nat)
  | save (c : Configuration)
  | deactivate (organization id : String)
  /-- The clock moves on. -/
  | advance (micros : Nat)
  /-- Some publishing is going to fail. -/
  | failPublishing (after times : Nat) (fault : Fault)
  /-- The count of a month is dropped when the lifetime that it was given in that month is over. -/
  | lapse (organization : String) (since : Instant)

namespace World

/-- The world before the first call. -/
def empty (settings : Settings) (start : Instant) : World := { clock := start, settings }

/-- Is the lifetime over that a monthly count was given at some time? -/
def IsOver (w : World) (since : Instant) : Prop :=
  since + Quota.monthlyLifetime * microsPerSecond ≤ w.clock

instance (w : World) (since : Instant) : Decidable (w.IsOver since) := by
  unfold IsOver
  infer_instance

/-- The world after a call. Queued payloads stay in the queue, so that they can be delivered again. -/
def call [Host] (w : World) : Call → World
  | .submit s => (exec (Submission.submit w.settings s) w).1
  | .deliver n =>
    match w.queue[n]? with
    | some payload => (exec (Task.processPayload payload) w).1
    | none => w
  | .save c => (exec (Configurations.save c) w).1
  | .deactivate org id => (exec (Configurations.deactivate org id) w).1
  | .advance micros => { w with clock := w.clock + micros }
  | .failPublishing after times fault =>
    { w with faults := w.faults ++ [⟨.enqueue, after, times, fault⟩] }
  | .lapse org since =>
    if w.IsOver since then
      w.withStore { w.store with
        counters := w.store.counters.erase (Quota.monthly org (.ofInstant since))
        lifetimes := w.store.lifetimes.erase (Quota.monthly org (.ofInstant since)) }
    else w

def calls [Host] (w : World) (cs : List Call) : World := cs.foldl call w

/-- What a call can do to jobs, queue and counts. -/
inductive Effect (w w' : World) : Prop
  | quiet (jobs : w'.store.jobs = w.store.jobs) (queue : w'.queue = w.queue)
    (counts : ∀ k, w'.store.count k = w.store.count k)
  | lapsed (org : String) (since : Instant) (past : w.IsOver since)
    (jobs : w'.store.jobs = w.store.jobs) (queue : w'.queue = w.queue)
    (counts : ∀ k, w'.store.count k =
      if k = Quota.monthly org (.ofInstant since) then 0 else w.store.count k)
  /-- A new job waits. -/
  | queued (s : Submission) (c : Configuration)
    (new : w.store.jobs.get? (s.firstJob c .queued w).id = none)
    (jobs : w'.store.jobs = w.store.jobs.set (s.firstJob c .queued w).id (s.firstJob c .queued w))
    (queue : w'.queue = w.queue ++ [(s.task (s.firstJob c .queued w)).payload])
    (counts : ∀ k, w'.store.count k = w.store.count k +
      if k = .active s.organization ∨ k = Quota.monthly s.organization w.time then 1 else 0)
    (within : 0 < w.settings.concurrentLimit →
      w'.store.count (.active s.organization) ≤ w.settings.concurrentLimit)
  /-- A new job has ended. -/
  | ended (s : Submission) (c : Configuration) (mode : Mode) (e : Ending)
    (finish : Submission.Finish e.target e.fields)
    (new : w.store.jobs.get? (s.firstJob c mode w).id = none)
    (jobs : w'.store.jobs = w.store.jobs.set (s.firstJob c mode w).id
      ((s.firstJob c mode w).moved e.target w.time e.fields))
    (queue : w'.queue = w.queue)
    (counts : ∀ k, w'.store.count k = w.store.count k +
      if k = Quota.monthly s.organization w.time ∧ e.target = .completed then 1 else 0)
  /-- A job that waited has ended. -/
  | carried (j : Job) (e : Ending) (finish : Submission.Finish e.target e.fields)
    (stored : w.store.jobs.get? j.id = some j) (pending : j.status = .pending)
    (jobs : w'.store.jobs = w.store.jobs.set j.id ((Task.taken w j).moved e.target w.time e.fields))
    (queue : w'.queue = w.queue)
    (counts : ∀ k, w'.store.count k =
      if k = .active j.organization ∨
        (k = Quota.monthly j.organization w.time ∧ e.target ≠ .completed)
      then max (w.store.count k - 1) 0 else w.store.count k)

/-- What a call can do. -/
structure Step (w w' : World) : Prop where
  steady : w'.Steady
  settings : w'.settings = w.settings
  clock : w.clock ≤ w'.clock
  effect : w.Effect w'

/-- What is true of a world at all times. -/
structure Sound (w : World) : Prop where
  steady : w.Steady
  nonneg : ∀ k, 0 ≤ w.store.count k
  keyed : ∀ id j, w.store.jobs.get? id = some j → j.id = id
  queued : ∀ p ∈ w.queue, ∃ t j, p = Task.payload t ∧ w.store.jobs.get? t.job = some j ∧
    j.organization = t.organization

variable {w w' : World}

theorem sound_empty (settings : Settings) (start : Instant) : (empty settings start).Sound where
  steady := ⟨rfl, fun _ hf => (nomatch hf), rfl⟩
  nonneg _ := Int.le_refl 0
  keyed _ _ h := nomatch h
  queued _ hp := nomatch hp

end World

/-! ### What ending a job does to counts -/

namespace Store

theorem count_returned (s : Store) (org : String) (t : DateTime) (completed : Bool) (k : Counter) :
    (s.returned org t completed).count k =
      if k = .active org ∨ (k = Quota.monthly org t ∧ completed = false) then max (s.count k - 1) 0
      else s.count k := by
  have hne : Quota.monthly org t ≠ Counter.active org := fun h => nomatch h
  cases completed with
  | true =>
    rw [returned, if_pos rfl, count_takeBack]
    by_cases hk : k = .active org <;> simp [hk]
  | false =>
    rw [returned, if_neg (by decide), count_takeBack, count_takeBack, count_takeBack]
    by_cases hk : k = .active org
    · simp [hk, hne.symm]
    · by_cases hm : k = Quota.monthly org t <;> simp [hk, hm, hne]

end Store

namespace World
variable {w w' : World}

theorem jobs_closed (w : World) (j : Job) (e : Ending) :
    (w.closed j e).store.jobs = w.store.jobs.set j.id (j.moved e.target w.time e.fields) :=
  (Store.SameRecords.returned _ _ _ _).jobs

theorem count_closed (w : World) (j : Job) (e : Ending) (k : Counter) :
    (w.closed j e).store.count k =
      if k = .active j.organization ∨
        (k = Quota.monthly j.organization w.time ∧ e.target ≠ .completed)
      then max (w.store.count k - 1) 0 else w.store.count k := by
  rw [closed, withStore_store, Store.count_returned]
  simp only [Ending.isCompletion, decide_eq_false_iff_not]
  rfl

theorem Steady.closed (hw : w.Steady) (j : Job) (e : Ending) : (w.closed j e).Steady :=
  ((hw.withFiles e.files).withStore _).withStore _

section Start

/-! An admitted submission starts in a store `t` in which the units were taken. -/

variable {s : Submission} {t : Store} (h : w.Sound)
  (ht : Quota.Took w.store
    (fun k => k = .active s.organization ∨ k = Quota.monthly s.organization w.time) t)
include h ht

/-- The units that were taken are given back. -/
theorem count_returned_of_took (k : Counter) :
    (t.returned s.organization w.time false).count k = w.store.count k := by
  have hk := h.nonneg k
  rw [Store.count_returned, ht.counts]
  by_cases hc : k = .active s.organization ∨ k = Quota.monthly s.organization w.time
  · simp only [hc, and_true, if_true]
    omega
  · simp [hc]

/-- A job that ended before its submission was answered leaves at most a unit of the month. -/
theorem step_ended {w1 : World} {c : Configuration} {mode : Mode} {e : Ending}
    (hnew : w.store.jobs.get? (s.firstJob c mode w).id = none)
    (he : Submission.Finish e.target e.fields) (hw1 : w1.Steady)
    (hstore : w1.store = Jobs.added t (s.firstJob c mode w)) (hsettings : w1.settings = w.settings)
    (hqueue : w1.queue = w.queue) (hclock : w1.clock = w.clock) :
    w.Step (w1.closed (s.firstJob c mode w) e) := by
  have htime : w1.time = w.time := congrArg DateTime.ofInstant hclock
  refine ⟨hw1.closed _ _, hsettings, Int.le_of_eq hclock.symm,
    .ended s c mode e he hnew ?_ hqueue (fun k => ?_)⟩
  · rw [jobs_closed, hstore, htime]
    show (t.jobs.set _ _).set _ _ = _
    rw [Table.set_set, ht.records.jobs]
  · have hcount : w1.store.count k = t.count k := by rw [hstore]; rfl
    have hk := h.nonneg k
    have hne : Counter.active s.organization ≠ Quota.monthly s.organization w.time :=
      fun h => nomatch h
    rw [count_closed, hcount, ht.counts, htime]
    show (if k = .active s.organization ∨ (k = Quota.monthly s.organization w.time ∧ _)
      then _ else _) = _
    by_cases hactive : k = .active s.organization
    · simp only [hactive, hne, true_or, if_true, false_and, if_false]
      rw [hactive] at hk
      omega
    · by_cases hmonth : k = Quota.monthly s.organization w.time
      · by_cases htarget : e.target = .completed
        · simp [hmonth, htarget, hne.symm]
        · simp only [hmonth, htarget, or_true, true_and, not_false_eq_true, ne_eq, if_true,
            if_false]
          rw [hmonth] at hk
          omega
      · simp [hactive, hmonth]

theorem step_start [Host] (c : Configuration) (mode : Mode)
    (within : 0 < w.settings.concurrentLimit →
      t.count (.active s.organization) ≤ w.settings.concurrentLimit) :
    w.Step (exec (Submission.start s c mode) (w.withStore t)).1 := by
  have hw := h.steady.withStore t
  cases hid : t.jobs.get? (IdKind.job.id (w.ids + 1)) with
  | some k =>
    rw [Submission.exec_start_of_exists hw s c mode hid]
    exact ⟨hw.withNextId.withStore _, rfl, Int.le_refl _, .quiet
      ((Store.SameRecords.returned _ _ _ _).jobs.trans ht.records.jobs) rfl
      (count_returned_of_took h ht)⟩
  | none =>
    have hnew : w.store.jobs.get? (s.firstJob c mode w).id = none := by
      rw [← ht.records.jobs]
      exact hid
    cases mode with
    | sync =>
      have hfinish := Submission.finish_ending (s.firstJob c .sync w) c s.file s.fileName w.files
      rw [Submission.exec_start_sync hw s c hid, Submission.firstJob_withStore]
      exact step_ended h ht hnew hfinish (hw.begun _) rfl rfl rfl rfl
    | queued =>
      cases hpublish : (countCall .enqueue w.faults).2 with
      | some f =>
        rw [Submission.exec_start_unqueued hw s c hid hpublish, Submission.firstJob_withStore]
        exact step_ended h ht hnew (.failed _ _) (hw.begun _).published rfl rfl rfl rfl
      | none =>
        rw [Submission.exec_start_queued hw s c hid hpublish]
        refine ⟨(hw.begun _).published.withTask _, rfl, Int.le_refl _,
          .queued s c hnew ?_ rfl ht.counts within⟩
        rw [← ht.records.jobs]
        rfl

end Start

theorem step_withStore (hw : w.Steady) {t : Store} (hjobs : t.jobs = w.store.jobs)
    (hcounts : ∀ k, t.count k = w.store.count k) : w.Step (w.withStore t) :=
  ⟨hw.withStore t, rfl, Int.le_refl _, .quiet hjobs rfl hcounts⟩

theorem step_refl (hw : w.Steady) : w.Step w := step_withStore hw rfl fun _ => rfl

theorem step_submit [Host] (h : w.Sound) (s : Submission) :
    w.Step (exec (Submission.submit w.settings s) w).1 := by
  have hfind := Submission.exec_configurationFor h.steady s.organization s.configuration
  rw [Submission.submit_eq]
  cases hc : (w.store.configurations.get? s.configuration).filter
    (Configurations.isVisible s.organization false) with
  | none =>
    rw [hc] at hfind
    rw [exec_bind_of_error hfind]
    exact step_refl h.steady
  | some c =>
    rw [hc] at hfind
    rw [exec_bind_of_ok hfind]
    by_cases hname : FileName.isSupported s.fileName = true
    · have hadmits := Quota.exec_reserve h.steady w.settings s.organization s.file.size
      rw [if_pos hname, exec_bind]
      generalize exec (Quota.reserve w.settings s.organization s.file.size) w = r at hadmits
      cases hadmits with
      | denied t reason counts ht =>
        refine step_withStore h.steady ht.records.jobs fun k => ?_
        rw [ht.counts, if_neg not_false, Int.add_zero]
      | allowed t counts ht within =>
        exact step_start h ht c _ within
    · rw [if_neg hname]
      exact step_refl h.steady

/-- A job that a worker took has ended when the worker is done. -/
theorem step_carried (hw : w.Steady) {j : Job} (hj : w.store.jobs.get? j.id = some j)
    (hs : j.status = .pending) {e : Ending} (he : Submission.Finish e.target e.fields) :
    w.Step ((Task.started w j).closed (Task.taken w j) e) := by
  refine ⟨(hw.withStore _).closed _ _, rfl, Int.le_refl _,
    .carried j e he hj hs ?_ rfl (fun k => ?_)⟩
  · rw [jobs_closed, Task.taken_id]
    exact Table.set_set _ _ _ _
  · rw [count_closed, Task.taken_eq]
    rfl

/-- A payload that was queued is delivered: its job is carried out if it waits. -/
theorem step_deliver [Host] (h : w.Sound) {payload : Value} (hp : payload ∈ w.queue) :
    w.Step (exec (Task.processPayload payload) w).1 := by
  obtain ⟨t, j, rfl, hj, horg⟩ := h.queued payload hp
  have hid := h.keyed t.job j hj
  rw [Task.exec_processPayload]
  by_cases hs : j.status = .pending
  · rw [← hid] at hj
    rw [Task.exec_process_of_pending h.steady hj hs hid horg]
    exact step_carried h.steady hj hs (Task.finish_ending t _ _ _)
  · rw [Task.exec_process_of_taken h.steady hj hs]
    exact step_refl h.steady

theorem step_save (hw : w.Steady) (c : Configuration) :
    w.Step (exec (Configurations.save c) w).1 := by
  rw [Configurations.exec_save hw]
  split
  · exact step_withStore hw (Store.jobs_addConfigurationId _ _ _)
      (Store.count_addConfigurationId _ _ _)
  · exact step_refl hw

theorem step_deactivate (hw : w.Steady) (org id : String) :
    w.Step (exec (Configurations.deactivate org id) w).1 := by
  rw [Configurations.exec_deactivate hw]
  split
  · exact step_withStore hw rfl fun _ => rfl
  · exact step_refl hw

theorem step_call [Host] (h : w.Sound) (a : Call) : w.Step (w.call a) := by
  cases a with
  | submit s => exact step_submit h s
  | deliver n =>
    rw [call]
    split
    · rename_i payload hn
      exact step_deliver h (List.mem_of_getElem? hn)
    · exact step_refl h.steady
  | save c => exact step_save h.steady c
  | deactivate org id => exact step_deactivate h.steady org id
  | advance micros =>
    exact ⟨⟨h.steady.races, h.steady.faults, h.steady.connected⟩, rfl,
      Int.le_add_of_nonneg_right (Int.natCast_nonneg _), .quiet rfl rfl fun _ => rfl⟩
  | failPublishing after times fault =>
    refine ⟨⟨h.steady.races, fun f hf => ?_, h.steady.connected⟩, rfl, Int.le_refl _,
      .quiet rfl rfl fun _ => rfl⟩
    obtain hf | hf := List.mem_append.mp hf
    · exact h.steady.faults f hf
    · rw [List.mem_singleton.mp hf]
  | lapse org since =>
    rw [call]
    split
    · rename_i hover
      refine ⟨h.steady.withStore _, rfl, Int.le_refl _,
        .lapsed org since hover rfl rfl fun k => ?_⟩
      unfold Store.count
      by_cases hk : k = Quota.monthly org (.ofInstant since)
      · rw [if_pos hk, hk, withStore_store, Table.get?_erase_self, Option.getD_none]
      · rw [if_neg hk, withStore_store, Table.get?_erase_ne _ hk]
    · exact step_refl h.steady

end World

/-! ### Counting jobs -/

namespace Store
variable {s t : Store} {i : String} {j k : Job}

/-- How many stored jobs are of some kind. -/
def countJobs (s : Store) (p : Job → Bool) : Nat := s.jobs.countP fun e => p e.2

theorem countJobs_congr (h : t.jobs = s.jobs) (p : Job → Bool) : t.countJobs p = s.countJobs p := by
  rw [countJobs, countJobs, h]

theorem countJobs_of_new (hnew : s.jobs.get? i = none) (hjobs : t.jobs = s.jobs.set i j)
    (p : Job → Bool) : t.countJobs p = s.countJobs p + if p j then 1 else 0 := by
  rw [countJobs, countJobs, hjobs]
  exact Table.countP_set_of_get?_none _ hnew j

theorem countJobs_of_stored (hstored : s.jobs.get? i = some j) (hjobs : t.jobs = s.jobs.set i k)
    (p : Job → Bool) :
    t.countJobs p + (if p j then 1 else 0) = s.countJobs p + if p k then 1 else 0 := by
  rw [countJobs, countJobs, hjobs]
  exact Table.countP_set_of_get? (fun e => p e.2) hstored k

end Store

/-! ### Runs -/

namespace World
variable {w w' : World}

/-- A job that is stored stays stored, with its organization, when a job is set that keeps it. -/
theorem exists_of_set {jobs : Table String Job} {i k : String} {j j' : Job}
    (hkeep : ∀ j, jobs.get? i = some j → j'.organization = j.organization)
    (hj : jobs.get? k = some j) :
    ∃ l, (jobs.set i j').get? k = some l ∧ l.organization = j.organization := by
  by_cases hk : k = i
  · rw [hk] at hj
    rw [hk]
    exact ⟨j', Table.get?_set_self _ _ _, hkeep j hj⟩
  · exact ⟨j, by rw [Table.get?_set_ne _ _ hk, hj], rfl⟩

theorem keyed_set {jobs : Table String Job} {j' : Job}
    (h : ∀ id j, jobs.get? id = some j → j.id = id) {i : String} (hi : j'.id = i) :
    ∀ id j, (jobs.set i j').get? id = some j → j.id = id := by
  intro id j hj
  by_cases hid : id = i
  · rw [hid, Table.get?_set_self] at hj
    rw [hid, ← hi, Option.some.inj hj]
  · rw [Table.get?_set_ne _ _ hid] at hj
    exact h id j hj

theorem Step.sound (h : w.Sound) (hstep : w.Step w') : w'.Sound := by
  have hnew {i : String} {j' : Job} (hi : w.store.jobs.get? i = none) :
      ∀ j, w.store.jobs.get? i = some j → j'.organization = j.organization := by
    intro j hj
    rw [hi] at hj
    cases hj
  have hqueued {i : String} {j' : Job}
      (hkeep : ∀ j, w.store.jobs.get? i = some j → j'.organization = j.organization) :
      ∀ p ∈ w.queue, ∃ t j, p = Task.payload t ∧ (w.store.jobs.set i j').get? t.job = some j ∧
        j.organization = t.organization := by
    intro p hp
    obtain ⟨t, j, ht, hj, horg⟩ := h.queued p hp
    obtain ⟨l, hl, hlorg⟩ := exists_of_set hkeep hj
    exact ⟨t, l, ht, hl, hlorg.trans horg⟩
  cases hstep.effect with
  | quiet jobs queue counts =>
    refine ⟨hstep.steady, fun k => counts k ▸ h.nonneg k, ?_, ?_⟩
    · rw [jobs]
      exact h.keyed
    · rw [jobs, queue]
      exact h.queued
  | lapsed org since past jobs queue counts =>
    refine ⟨hstep.steady, fun k => ?_, ?_, ?_⟩
    · rw [counts]
      split
      · exact Int.le_refl 0
      · exact h.nonneg k
    · rw [jobs]
      exact h.keyed
    · rw [jobs, queue]
      exact h.queued
  | queued s c new jobs queue counts within =>
    refine ⟨hstep.steady, fun k => ?_, ?_, ?_⟩
    · have hk := h.nonneg k
      rw [counts]
      split <;> omega
    · rw [jobs]
      exact keyed_set h.keyed rfl
    · rw [jobs, queue]
      intro p hp
      obtain hp | hp := List.mem_append.mp hp
      · exact hqueued (hnew new) p hp
      · exact ⟨_, _, List.mem_singleton.mp hp, Table.get?_set_self _ _ _, rfl⟩
  | ended s c mode e finish new jobs queue counts =>
    refine ⟨hstep.steady, fun k => ?_, ?_, ?_⟩
    · have hk := h.nonneg k
      rw [counts]
      split <;> omega
    · rw [jobs]
      exact keyed_set h.keyed (finish.moved_keeps _ _).1
    · rw [jobs, queue]
      exact hqueued (hnew new)
  | carried j e finish stored pending jobs queue counts =>
    have hkeeps := finish.moved_keeps (Task.taken w j) w.time
    rw [Task.taken_eq] at hkeeps
    refine ⟨hstep.steady, fun k => ?_, ?_, ?_⟩
    · have hk := h.nonneg k
      rw [counts]
      split <;> omega
    · rw [jobs, Task.taken_eq]
      exact keyed_set h.keyed hkeeps.1
    · rw [jobs, queue, Task.taken_eq]
      refine hqueued fun l hl => ?_
      rw [stored] at hl
      rw [hkeeps.2.1, ← Option.some.inj hl]

variable [Host]

theorem calls_of_step {P : World → Prop} {settings : Settings}
    (hstep : ∀ w w' : World, w.Sound → w.settings = settings → P w → w.Step w' → P w')
    (cs : List Call) (hw : w.Sound) (hsettings : w.settings = settings) (hP : P w) :
    (w.calls cs).Sound ∧ (w.calls cs).settings = settings ∧ P (w.calls cs) := by
  induction cs generalizing w with
  | nil => exact ⟨hw, hsettings, hP⟩
  | cons a cs ih =>
    have hcall := step_call hw a
    exact ih (hcall.sound hw) (hcall.settings.trans hsettings) (hstep w _ hw hsettings hP hcall)

/-- **What every step preserves holds after any calls** from the empty world on. -/
theorem calls_induction {P : World → Prop} {settings : Settings} {start : Instant}
    (hempty : P (empty settings start))
    (hstep : ∀ w w' : World, w.Sound → w.settings = settings → P w → w.Step w' → P w')
    (cs : List Call) :
    ((empty settings start).calls cs).Sound ∧ ((empty settings start).calls cs).settings = settings ∧
      P ((empty settings start).calls cs) :=
  calls_of_step hstep cs (sound_empty settings start) rfl hempty

theorem sound_calls (settings : Settings) (start : Instant) (cs : List Call) :
    ((empty settings start).calls cs).Sound :=
  (calls_induction (P := fun _ => True) trivial (fun _ _ _ _ _ _ => trivial) cs).1

end World

end Sheetflow
