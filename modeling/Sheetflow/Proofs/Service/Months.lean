import Sheetflow.Proofs.Service.Calls
import Sheetflow.Proofs.Time.Month

/-!
# Jobs of a month

The count of a month takes a unit for each job that is admitted in it, and a job that fails gives a
unit back to the month in which it fails.  So the count is that of the jobs admitted in the month that
have not failed, but for jobs of an earlier month that fail in it: each of those may take a unit away
that was not its own (`World.usage_counts_month`, `World.usage_misses_job`).
-/

namespace Sheetflow

open Service

namespace Job

/-- Was the job of an organization admitted in a month, and has it not failed? -/
def isUsed (org month : String) (j : Job) : Bool :=
  j.organization = org ∧ j.createdAt.date.monthText = month ∧ j.status ≠ .failed

/-- Did the job of an organization fail in a month, and was it admitted in another? -/
def failedLate (org month : String) (j : Job) : Bool :=
  j.organization = org ∧ j.status = .failed ∧
    j.completedAt.any (·.date.monthText = month) ∧ j.createdAt.date.monthText ≠ month

variable {target : JobStatus} {fields : List JobField}

theorem isUsed_moved (h : Submission.Finish target fields) (j : Job) (now : DateTime)
    (org month : String) :
    (j.moved target now fields).isUsed org month =
      decide (j.organization = org ∧ j.createdAt.date.monthText = month ∧ target ≠ .failed) := by
  obtain ⟨-, horg, hcreated⟩ := h.moved_keeps j now
  rw [isUsed, horg, hcreated, (h.status_moved j now).1]

theorem failedLate_moved (h : Submission.Finish target fields) (j : Job) (now : DateTime)
    (org month : String) :
    (j.moved target now fields).failedLate org month =
      decide (j.organization = org ∧ target = .failed ∧ now.date.monthText = month ∧
        j.createdAt.date.monthText ≠ month) := by
  obtain ⟨-, horg, hcreated⟩ := h.moved_keeps j now
  obtain ⟨hstatus, hcompleted⟩ := h.status_moved j now
  rw [failedLate, horg, hcreated, hstatus, hcompleted]
  simp

theorem isUsed_of_ne {j : Job} (h : j.status ≠ .failed) (org month : String) :
    j.isUsed org month = decide (j.organization = org ∧ j.createdAt.date.monthText = month) := by
  simp [isUsed, h]

theorem failedLate_of_ne {j : Job} (h : j.status ≠ .failed) (org month : String) :
    j.failedLate org month = false := by
  simp [failedLate, h]

end Job

/-- The count of a month is that of the jobs admitted in it that have not failed, but for late
failures. -/
structure Store.Counts (s : Store) (org month : String) : Prop where
  le : s.count (.monthly org month) ≤ s.countJobs (Job.isUsed org month)
  ge : (s.countJobs (Job.isUsed org month) : Int) ≤
    s.count (.monthly org month) + s.countJobs (Job.failedLate org month)

namespace World

/-- What is known of jobs and of the counts of the current month and those to come. -/
structure Months (w : World) : Prop where
  started : DateTime.first ≤ w.clock
  created : ∀ id j, w.store.jobs.get? id = some j →
    ∃ i, DateTime.first ≤ i ∧ i ≤ w.clock ∧ j.createdAt = .ofInstant i
  counted : ∀ org t, w.clock ≤ t → w.store.Counts org (DateTime.month t)

variable {w w' : World}

theorem months_empty (settings : Settings) {start : Instant} (h : DateTime.first ≤ start) :
    (empty settings start).Months :=
  ⟨h, fun _ _ hj => (nomatch hj), fun _ _ _ => ⟨Int.le_refl 0, Int.le_refl 0⟩⟩

/-- The counter of a month is that of the current one. -/
theorem monthly_eq_iff (w : World) (org org' month : String) :
    Counter.monthly org month = Quota.monthly org' w.time ↔
      org' = org ∧ DateTime.month w.clock = month := by
  show Counter.monthly org month = Counter.monthly org' (DateTime.month w.clock) ↔ _
  rw [Counter.monthly.injEq]
  exact and_congr eq_comm eq_comm

/-- New and changed jobs were created when the records say. -/
theorem Months.created_set (h : w.Months) (hclock : w.clock ≤ w'.clock) {id : String} {j : Job}
    (hjobs : w'.store.jobs = w.store.jobs.set id j)
    (hj : ∃ i, DateTime.first ≤ i ∧ i ≤ w.clock ∧ j.createdAt = .ofInstant i) :
    ∀ id j, w'.store.jobs.get? id = some j →
      ∃ i, DateTime.first ≤ i ∧ i ≤ w'.clock ∧ j.createdAt = .ofInstant i := by
  intro id' k hk
  rw [hjobs] at hk
  by_cases hid : id' = id
  · rw [hid, Table.get?_set_self] at hk
    obtain ⟨i, hi, hle, hcreated⟩ := hj
    exact ⟨i, hi, Int.le_trans hle hclock, Option.some.inj hk ▸ hcreated⟩
  · rw [Table.get?_set_ne _ _ hid] at hk
    obtain ⟨i, hi, hle, hcreated⟩ := h.created id' k hk
    exact ⟨i, hi, Int.le_trans hle hclock, hcreated⟩

section Counts
variable {org month : String} (h : w.store.Counts org month)
include h

/-- A job that is queued is counted in its month. -/
theorem counts_queued {s : Submission} {c : Configuration}
    (new : w.store.jobs.get? (s.firstJob c .queued w).id = none)
    (jobs : w'.store.jobs = w.store.jobs.set (s.firstJob c .queued w).id (s.firstJob c .queued w))
    (counts : ∀ k, w'.store.count k = w.store.count k +
      if k = .active s.organization ∨ k = Quota.monthly s.organization w.time then 1 else 0) :
    w'.store.Counts org month := by
  have hwaits : (s.firstJob c .queued w).status ≠ .failed := JobStatus.noConfusion
  have hcount : w'.store.count (.monthly org month) = w.store.count (.monthly org month) +
      if s.organization = org ∧ DateTime.month w.clock = month then 1 else 0 := by
    simp only [counts, monthly_eq_iff, reduceCtorEq, false_or]
  have hused : w'.store.countJobs (Job.isUsed org month) = w.store.countJobs (Job.isUsed org month) +
      if s.organization = org ∧ DateTime.month w.clock = month then 1 else 0 := by
    have := Store.countJobs_of_new new jobs (Job.isUsed org month)
    rw [Job.isUsed_of_ne hwaits] at this
    simp only [decide_eq_true_eq] at this
    exact this
  have hlate : w'.store.countJobs (Job.failedLate org month) =
      w.store.countJobs (Job.failedLate org month) := by
    have := Store.countJobs_of_new new jobs (Job.failedLate org month)
    rwa [Job.failedLate_of_ne hwaits, if_neg Bool.false_ne_true, Nat.add_zero] at this
  have hle := h.le
  have hge := h.ge
  constructor
  · rw [hcount, hused]
    split <;> omega
  · rw [hcount, hused, hlate]
    split <;> omega

/-- A job that has ended when its submission is answered is counted if it was completed. -/
theorem counts_ended {s : Submission} {c : Configuration} {mode : Mode} {e : Ending}
    (finish : Submission.Finish e.target e.fields)
    (new : w.store.jobs.get? (s.firstJob c mode w).id = none)
    (jobs : w'.store.jobs = w.store.jobs.set (s.firstJob c mode w).id
      ((s.firstJob c mode w).moved e.target w.time e.fields))
    (counts : ∀ k, w'.store.count k = w.store.count k +
      if k = Quota.monthly s.organization w.time ∧ e.target = .completed then 1 else 0) :
    w'.store.Counts org month := by
  have hcount : w'.store.count (.monthly org month) = w.store.count (.monthly org month) +
      if (s.organization = org ∧ DateTime.month w.clock = month) ∧ e.target = .completed
      then 1 else 0 := by
    simp only [counts, monthly_eq_iff]
  have hused : w'.store.countJobs (Job.isUsed org month) = w.store.countJobs (Job.isUsed org month) +
      if s.organization = org ∧ DateTime.month w.clock = month ∧ e.target ≠ .failed
      then 1 else 0 := by
    have := Store.countJobs_of_new new jobs (Job.isUsed org month)
    rw [Job.isUsed_moved finish] at this
    simp only [decide_eq_true_eq] at this
    exact this
  have hlate : w'.store.countJobs (Job.failedLate org month) =
      w.store.countJobs (Job.failedLate org month) := by
    have := Store.countJobs_of_new new jobs (Job.failedLate org month)
    rw [Job.failedLate_moved finish] at this
    simp only [decide_eq_true_eq] at this
    rwa [if_neg fun hc => hc.2.2.2 hc.2.2.1, Nat.add_zero] at this
  have hle := h.le
  have hge := h.ge
  obtain htarget | htarget := finish.eq_completed_or_failed
  · simp only [htarget, and_true, ne_eq, reduceCtorEq, not_false_eq_true] at hcount hused
    constructor
    · rw [hcount, hused]
      split <;> omega
    · rw [hcount, hused, hlate]
      split <;> omega
  · simp only [htarget, ne_eq, reduceCtorEq, not_true_eq_false, and_false, if_false] at hcount hused
    constructor
    · rw [hcount, hused]
      omega
    · rw [hcount, hused, hlate]
      omega

/-- A job that ends after it waited gives back the unit of the month if it failed; `hmonth` says that
the month in question is not an earlier one, in which the job was admitted. -/
theorem counts_carried {j : Job} {e : Ending} (finish : Submission.Finish e.target e.fields)
    (stored : w.store.jobs.get? j.id = some j) (pending : j.status = .pending)
    (hmonth : j.createdAt.date.monthText = month → DateTime.month w.clock = month)
    (jobs : w'.store.jobs = w.store.jobs.set j.id ((Task.taken w j).moved e.target w.time e.fields))
    (counts : ∀ k, w'.store.count k =
      if k = .active j.organization ∨
        (k = Quota.monthly j.organization w.time ∧ e.target ≠ .completed)
      then max (w.store.count k - 1) 0 else w.store.count k) :
    w'.store.Counts org month := by
  have hwaits : j.status ≠ .failed := by
    rw [pending]
    exact JobStatus.noConfusion
  have hcount : w'.store.count (.monthly org month) =
      if (j.organization = org ∧ DateTime.month w.clock = month) ∧ e.target ≠ .completed
      then max (w.store.count (.monthly org month) - 1) 0
      else w.store.count (.monthly org month) := by
    simp only [counts, monthly_eq_iff, reduceCtorEq, false_or]
  have hused : w'.store.countJobs (Job.isUsed org month) +
      (if j.organization = org ∧ j.createdAt.date.monthText = month then 1 else 0) =
        w.store.countJobs (Job.isUsed org month) +
          if j.organization = org ∧ j.createdAt.date.monthText = month ∧ e.target ≠ .failed
          then 1 else 0 := by
    have := Store.countJobs_of_stored stored jobs (Job.isUsed org month)
    rw [Job.isUsed_moved finish, Job.isUsed_of_ne hwaits, Task.taken_eq] at this
    simp only [decide_eq_true_eq] at this
    exact this
  have hlate : w'.store.countJobs (Job.failedLate org month) =
      w.store.countJobs (Job.failedLate org month) +
        if j.organization = org ∧ e.target = .failed ∧ DateTime.month w.clock = month ∧
          j.createdAt.date.monthText ≠ month then 1 else 0 := by
    have := Store.countJobs_of_stored stored jobs (Job.failedLate org month)
    rw [Job.failedLate_moved finish, Job.failedLate_of_ne hwaits, Task.taken_eq] at this
    simp only [decide_eq_true_eq, if_neg Bool.false_ne_true, Nat.add_zero] at this
    exact this
  have hle := h.le
  have hge := h.ge
  obtain htarget | htarget := finish.eq_completed_or_failed
  · simp only [htarget, ne_eq, reduceCtorEq, not_true_eq_false, not_false_eq_true, and_true, and_false,
      false_and, if_false, Nat.add_zero, Nat.add_right_cancel_iff] at hcount hused hlate
    exact ⟨by rw [hcount, hused]; exact hle, by rw [hcount, hused, hlate]; exact hge⟩
  · simp only [htarget, ne_eq, reduceCtorEq, not_true_eq_false, not_false_eq_true, true_and, and_true,
      and_false, if_false, Nat.add_zero] at hcount hused hlate
    -- the unit is the job's own, another job's, or none of this month
    by_cases horg : j.organization = org
    · by_cases hnow : DateTime.month w.clock = month
      · by_cases hcreated : j.createdAt.date.monthText = month
        · simp only [horg, hnow, hcreated, not_true_eq_false, and_self, and_false, if_true, if_false,
            Nat.add_zero] at hcount hused hlate
          constructor <;> omega
        · simp only [horg, hnow, hcreated, not_false_eq_true, and_self, and_false, if_true, if_false,
            Nat.add_zero] at hcount hused hlate
          constructor <;> omega
      · have hcreated : ¬ j.createdAt.date.monthText = month := fun hc => hnow (hmonth hc)
        simp only [hnow, hcreated, false_and, and_false, if_false, Nat.add_zero] at hcount hused hlate
        constructor <;> omega
    · simp only [horg, false_and, if_false, Nat.add_zero] at hcount hused hlate
      constructor <;> omega

end Counts

theorem Months.step (h : w.Months) (hstep : w.Step w') : w'.Months := by
  have hclock := hstep.clock
  have hstarted := Int.le_trans h.started hclock
  have hkept (hjobs : w'.store.jobs = w.store.jobs) : ∀ id j, w'.store.jobs.get? id = some j →
      ∃ i, DateTime.first ≤ i ∧ i ≤ w'.clock ∧ j.createdAt = .ofInstant i := by
    intro id j hj
    rw [hjobs] at hj
    obtain ⟨i, hi, hle, hcreated⟩ := h.created id j hj
    exact ⟨i, hi, Int.le_trans hle hclock, hcreated⟩
  cases hstep.effect with
  | quiet jobs queue counts =>
    refine ⟨hstarted, hkept jobs, fun org t ht => ?_⟩
    obtain ⟨hle, hge⟩ := h.counted org t (Int.le_trans hclock ht)
    constructor
    · rw [counts, Store.countJobs_congr jobs]
      exact hle
    · rw [counts, Store.countJobs_congr jobs, Store.countJobs_congr jobs]
      exact hge
  | lapsed org' since past jobs queue counts =>
    refine ⟨hstarted, hkept jobs, fun org t ht => ?_⟩
    have ht' := Int.le_trans hclock ht
    obtain ⟨hle, hge⟩ := h.counted org t ht'
    have hne : Counter.monthly org (DateTime.month t) ≠ Quota.monthly org' (.ofInstant since) := by
      intro heq
      have hmonth : DateTime.month t = DateTime.month since := (Counter.monthly.inj heq).2
      exact DateTime.month_ne_of_lifetime (Int.le_trans h.started ht') (Int.le_trans past ht')
        hmonth.symm
    constructor
    · rw [counts, if_neg hne, Store.countJobs_congr jobs]
      exact hle
    · rw [counts, if_neg hne, Store.countJobs_congr jobs, Store.countJobs_congr jobs]
      exact hge
  | queued s c new jobs queue counts within =>
    exact ⟨hstarted, h.created_set hclock jobs ⟨w.clock, h.started, Int.le_refl _, rfl⟩,
      fun org t ht => counts_queued (h.counted org t (Int.le_trans hclock ht)) new jobs counts⟩
  | ended s c mode e finish new jobs queue counts =>
    have hcreated := (finish.moved_keeps (s.firstJob c mode w) w.time).2.2
    exact ⟨hstarted, h.created_set hclock jobs ⟨w.clock, h.started, Int.le_refl _, hcreated⟩,
      fun org t ht => counts_ended (h.counted org t (Int.le_trans hclock ht)) finish new jobs counts⟩
  | carried j e finish stored pending jobs queue counts =>
    obtain ⟨i, hi, hnow, hj⟩ := h.created j.id j stored
    have hcreated := (finish.moved_keeps (Task.taken w j) w.time).2.2
    rw [Task.taken_eq] at hcreated
    refine ⟨hstarted, h.created_set hclock jobs ⟨i, hi, hnow, ?_⟩, fun org t ht => ?_⟩
    · rw [Task.taken_eq, hcreated, hj]
    · have ht' := Int.le_trans hclock ht
      refine counts_carried (h.counted org t ht') finish stored pending (fun hmonth => ?_) jobs counts
      rw [hj] at hmonth
      exact DateTime.month_between hi hnow ht' hmonth

/-- **The usage of the current month** counts the jobs that were admitted in it and have not failed,
after any calls from the empty world on; only jobs of an earlier month that failed in this one may be
missing from it, one each. -/
theorem usage_counts_month [Host] (settings : Settings) {start : Instant}
    (hstart : DateTime.first ≤ start)
    (cs : List Call) (org : String) :
    let w := (empty settings start).calls cs
    let month := w.time.date.monthText
    let used := w.store.countJobs (Job.isUsed org month)
    let late := w.store.countJobs (Job.failedLate org month)
    ∃ u, exec (Quota.usage settings org) w = (w, .ok u) ∧
      u.monthly ≤ used ∧ used ≤ u.monthly + late ∧ (late = 0 → u.monthly = used) := by
  intro w month used late
  obtain ⟨hsound, -, hmonths⟩ := calls_induction (P := Months) (months_empty settings hstart)
    (fun _ _ _ _ h hstep => h.step hstep) cs
  have hcounts : w.store.Counts org month := hmonths.counted org w.clock (Int.le_refl _)
  have hle : w.store.count (.monthly org month) ≤ used := hcounts.le
  have hge : (used : Int) ≤ w.store.count (.monthly org month) + late := hcounts.ge
  refine ⟨_, Quota.exec_usage hsound.steady settings org, hle, hge, fun hlate => ?_⟩
  rw [hlate] at hge
  exact Int.le_antisymm hle (Int.le_trans hge (Int.le_of_eq (Int.add_zero _)))

/-- In March a job is queued, in April another; then the first one fails, because its configuration was
deactivated, and takes the unit of the second one away. -/
def acrossMonths : List Call :=
  [.save .copying, .submit .smallTable, .advance (20 * 86400 * 1000000), .submit .smallTable,
    .deactivate "o" "c", .deliver 0]

/-- Noon of the fifteenth of March 2024. -/
def march : Instant := 1710504000000000

section
attribute [local instance] Host.bare

/-- Before the first job fails the usage of April is that of the second one. -/
theorem usage_counts_month_of_april :
    DateTime.first ≤ march ∧
      ∃ u, exec (Quota.usage {} "o") ((empty {} march).calls (acrossMonths.take 4)) =
          ((empty {} march).calls (acrossMonths.take 4), .ok u) ∧ u.monthly = 1 := by
  have hstart : DateTime.first ≤ march := by decide
  have hused : ((empty {} march).calls (acrossMonths.take 4)).store.countJobs (Job.isUsed "o"
      ((empty {} march).calls (acrossMonths.take 4)).time.date.monthText) = 1 := by decide +kernel
  have hlate : ((empty {} march).calls (acrossMonths.take 4)).store.countJobs (Job.failedLate "o"
      ((empty {} march).calls (acrossMonths.take 4)).time.date.monthText) = 0 := by decide +kernel
  obtain ⟨u, hu, -, -, heq⟩ := usage_counts_month {} hstart (acrossMonths.take 4) "o"
  exact ⟨hstart, u, hu, (heq hlate).trans (congrArg Nat.cast hused)⟩

/-- **A job of an earlier month takes a unit away**: one job of the month has not failed, and the usage
of the month is none. -/
theorem usage_misses_job :
    let w := (empty {} march).calls acrossMonths
    w.store.countJobs (Job.isUsed "o" w.time.date.monthText) = 1 ∧
      ∃ u, exec (Quota.usage {} "o") w = (w, .ok u) ∧ u.monthly = 0 := by
  intro w
  have hsound : w.Sound := (calls_induction (P := fun _ => True) trivial
    (fun _ _ _ _ _ _ => trivial) acrossMonths).1
  exact ⟨by decide +kernel, _, Quota.exec_usage hsound.steady {} "o", by decide +kernel⟩

end

end World

end Sheetflow
