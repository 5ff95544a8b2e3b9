import Sheetflow.Proofs.Service.Tenants

/-!
# Listing jobs

The index of an organization holds its stored jobs, each once and at the time of
its creation (`Store.Indexed`).  A new job comes with its entry, and no job is
taken from its organization or gets another time of creation, so this is so in
every world that is reached (`World.indexed_errands`), whatever payloads workers
were given.

The store counts the end of the part to be listed from 0, and from the end if it
is negative.  The last index asked for is one below the limit, so a positive limit
lists the first jobs, but a limit of 0 lists them all, and a negative one leaves
out the last ones only (`World.newest_jobs_listed`).
-/

namespace Sheetflow

open Service

/-! ### The index -/

namespace Store
variable {s t : Store} {id : String} {j k : Job}

/-- Jobs are stored under their ids, and the index of an organization holds those that are its own,
each once and at the time of its creation. -/
structure Indexed (s : Store) : Prop where
  keyed : s.jobs.Keyed Job.id
  mem : ∀ org e, e ∈ s.indexedJobs org ↔
    ∃ j, s.jobs.get? e.id = some j ∧ j.organization = org ∧ j.createdAt = e.createdAt
  once : ∀ org, ((s.indexedJobs org).map IndexedJob.id).Nodup

theorem indexed_empty : Indexed {} := by
  refine ⟨fun _ _ hj => (nomatch hj), fun org e => ⟨fun he => (nomatch he), ?_⟩,
    fun _ => List.nodup_nil⟩
  rintro ⟨j, hj, -⟩
  cases hj

theorem jobIndex_addConfigurationId (s : Store) (org id : String) :
    (s.addConfigurationId org id).jobIndex = s.jobIndex := by
  unfold addConfigurationId
  dsimp only
  split <;> rfl

theorem indexedJobs_of_jobIndex (h : t.jobIndex = s.jobIndex) (org : String) :
    t.indexedJobs org = s.indexedJobs org := by
  rw [indexedJobs, h, indexedJobs]

theorem Indexed.of_records (h : s.Indexed) (hjobs : t.jobs = s.jobs)
    (hindex : t.jobIndex = s.jobIndex) : t.Indexed := by
  refine ⟨hjobs ▸ h.keyed, fun org e => ?_, fun org => ?_⟩
  · rw [indexedJobs_of_jobIndex hindex, hjobs]
    exact h.mem org e
  · rw [indexedJobs_of_jobIndex hindex]
    exact h.once org

theorem Indexed.of_sameRecords (h : s.Indexed) (hst : s.SameRecords t) : t.Indexed :=
  h.of_records hst.jobs hst.jobIndex

/-- A stored job may change in all but what it is indexed by. -/
theorem Indexed.replaced (h : s.Indexed) (hj : s.jobs.get? id = some j) (hid : k.id = j.id)
    (horg : k.organization = j.organization) (hcreated : k.createdAt = j.createdAt)
    (hjobs : t.jobs = s.jobs.set id k) (hindex : t.jobIndex = s.jobIndex) : t.Indexed := by
  refine ⟨hjobs ▸ h.keyed.set (hid.trans (h.keyed id j hj)), fun org e => ?_, fun org => ?_⟩
  · rw [indexedJobs_of_jobIndex hindex, h.mem, hjobs]
    by_cases he : e.id = id
    · rw [he, Table.get?_set_self, hj]
      simp only [Option.some.injEq, exists_eq_left', horg, hcreated]
    · rw [Table.get?_set_ne _ _ he]
  · rw [indexedJobs_of_jobIndex hindex]
    exact h.once org

theorem Indexed.ne_of_mem (h : s.Indexed) (hnew : s.jobs.get? id = none) {org : String}
    {e : IndexedJob} (he : e ∈ s.indexedJobs org) : e.id ≠ id := by
  obtain ⟨k, hk, -⟩ := (h.mem org e).mp he
  rintro rfl
  rw [hnew] at hk
  cases hk

/-- A new job comes to the index of its organization, and to no other. -/
theorem Indexed.indexedJobs_added (h : s.Indexed) (hnew : s.jobs.get? j.id = none) (org : String) :
    (Jobs.added s j).indexedJobs org =
      s.indexedJobs org ++ if org = j.organization then [⟨j.id, j.createdAt⟩] else [] := by
  have hothers : (s.indexedJobs j.organization).filter (fun e => e.id ≠ j.id) =
      s.indexedJobs j.organization :=
    List.filter_eq_self.mpr fun e he => decide_eq_true (h.ne_of_mem hnew he)
  refine (indexedJobs_set { s with jobs := s.jobs.set j.id j } j.organization org _).trans ?_
  split
  · next horg =>
    rw [horg]
    exact congrArg (· ++ [_]) hothers
  · rw [List.append_nil]
    rfl

theorem Indexed.added (h : s.Indexed) (hnew : s.jobs.get? j.id = none) :
    (Jobs.added s j).Indexed := by
  have hjobs : (Jobs.added s j).jobs = s.jobs.set j.id j := rfl
  refine ⟨hjobs ▸ h.keyed.set rfl, fun org e => ?_, fun org => ?_⟩
  · rw [h.indexedJobs_added hnew, List.mem_append, hjobs]
    by_cases he : e.id = j.id
    · have hnone : e ∉ s.indexedJobs org := fun hmem => h.ne_of_mem hnew hmem he
      rw [he, Table.get?_set_self]
      simp only [hnone, false_or, Option.some.injEq, exists_eq_left']
      constructor
      · intro hmem
        split at hmem
        · next horg =>
          exact ⟨horg.symm, (congrArg IndexedJob.createdAt (List.mem_singleton.mp hmem)).symm⟩
        · cases hmem
      · rintro ⟨horg, hcreated⟩
        rw [if_pos horg.symm, List.mem_singleton, hcreated, ← he]
    · have hnone : e ∉ if org = j.organization then [⟨j.id, j.createdAt⟩] else [] := by
        intro hmem
        split at hmem
        · exact he (congrArg IndexedJob.id (List.mem_singleton.mp hmem))
        · cases hmem
      rw [Table.get?_set_ne _ _ he, or_iff_left hnone]
      exact h.mem org e
  · rw [h.indexedJobs_added hnew]
    split
    · rw [List.map_append, List.map_singleton]
      refine List.nodup_append.mpr ⟨h.once org, List.pairwise_singleton _ _, fun a ha b hb => ?_⟩
      obtain ⟨e, he, rfl⟩ := List.mem_map.mp ha
      exact List.mem_singleton.mp hb ▸ h.ne_of_mem hnew he
    · rw [List.append_nil]
      exact h.once org

end Store

/-! ### Submissions -/

/-- A submission is turned away before it takes anything for good, or it starts. -/
theorem Submission.exec_submit_cases [Host] {w : World} (hw : w.Steady) (settings : Settings)
    (s : Submission) :
    (∃ t e, exec (submit settings s) w = (w.withStore t, .error e) ∧ w.store.SameRecords t) ∨
      ∃ c t, exec (submit settings s) w =
          exec (start s c (Mode.choose settings s.file.size s.async s.callbackUrl)) (w.withStore t) ∧
        w.store.SameRecords t := by
  have hfind := exec_configurationFor hw s.organization s.configuration
  rw [submit_eq]
  cases hc : (w.store.configurations.get? s.configuration).filter
    (Configurations.isVisible s.organization false) with
  | none =>
    rw [hc] at hfind
    exact .inl ⟨w.store, _, exec_bind_of_error hfind _, .rfl' _⟩
  | some c =>
    rw [hc] at hfind
    rw [exec_bind_of_ok hfind]
    by_cases hname : FileName.isSupported s.fileName = true
    · have hadmits := Quota.exec_reserve hw settings s.organization s.file.size
      rw [if_pos hname, exec_bind]
      generalize exec (Quota.reserve settings s.organization s.file.size) w = r at hadmits
      cases hadmits with
      | denied t reason counts ht => exact .inl ⟨t, _, rfl, ht.records⟩
      | allowed t counts ht _ => exact .inr ⟨c, t, rfl, ht.records⟩
    · rw [if_neg hname]
      exact .inl ⟨w.store, _, rfl, .rfl' _⟩

namespace World
variable {w : World} {j : Job}

/-- The store answers, and its index is right. -/
structure Indexed (w : World) : Prop where
  steady : w.Steady
  store : w.store.Indexed

namespace Indexed

theorem withStore (h : w.Indexed) {t : Store} (ht : t.Indexed) : (w.withStore t).Indexed :=
  ⟨h.steady.withStore t, ht⟩

theorem of_sameRecords (h : w.Indexed) {t : Store} (ht : w.store.SameRecords t) :
    (w.withStore t).Indexed := h.withStore (h.store.of_sameRecords ht)

/-- A job that ends stays where it is in the index. -/
theorem ended (h : w.Indexed) (hj : w.store.jobs.get? j.id = some j) {e : Ending}
    (he : Submission.Finish e.target e.fields) : (w.ended j e).Indexed := by
  obtain ⟨hid, horg, hcreated⟩ := he.moved_keeps j w.time
  exact ⟨(h.steady.withFiles _).withStore _, h.store.replaced hj hid horg hcreated rfl rfl⟩

theorem returned (h : w.Indexed) (org : String) (t : DateTime) (completed : Bool) :
    (w.withStore (w.store.returned org t completed)).Indexed :=
  h.of_sameRecords (.returned _ _ _ _)

theorem closed (h : w.Indexed) (hj : w.store.jobs.get? j.id = some j) {e : Ending}
    (he : Submission.Finish e.target e.fields) : (w.closed j e).Indexed :=
  (h.ended hj he).returned _ _ _

theorem begun (h : w.Indexed) (hnew : w.store.jobs.get? j.id = none) : (w.begun j).Indexed :=
  ⟨h.steady.begun j, h.store.added hnew⟩

theorem start [Host] (h : w.Indexed) (s : Submission) (c : Configuration) (mode : Mode) :
    (exec (Submission.start s c mode) w).1.Indexed := by
  cases hnew : w.store.jobs.get? (IdKind.job.id (w.ids + 1)) with
  | some k =>
    rw [Submission.exec_start_of_exists h.steady s c mode hnew]
    exact Indexed.returned (w := w.withNextId) ⟨h.steady.withNextId, h.store⟩ _ _ _
  | none =>
    have hbegun (mode : Mode) : (w.begun (s.firstJob c mode w)).Indexed := h.begun hnew
    have hstored (mode : Mode) := get?_begun w (s.firstJob c mode w)
    cases mode with
    | sync =>
      rw [Submission.exec_start_sync h.steady s c hnew]
      exact (hbegun .sync).closed (hstored .sync) (Submission.finish_ending _ _ _ _ _)
    | queued =>
      have hpublished : (w.begun (s.firstJob c .queued w)).published.Indexed :=
        ⟨(hbegun .queued).steady.published, (hbegun .queued).store⟩
      cases hpublish : (countCall .enqueue w.faults).2 with
      | some f =>
        rw [Submission.exec_start_unqueued h.steady s c hnew hpublish]
        exact hpublished.closed (hstored .queued) (.failed _ _)
      | none =>
        rw [Submission.exec_start_queued h.steady s c hnew hpublish]
        exact ⟨hpublished.steady.withTask _, hpublished.store⟩

theorem submit [Host] (h : w.Indexed) (settings : Settings) (s : Submission) :
    (exec (Submission.submit settings s) w).1.Indexed := by
  obtain ⟨t, e, hexec, ht⟩ | ⟨c, t, hexec, ht⟩ := Submission.exec_submit_cases h.steady settings s
  · rw [hexec]
    exact h.of_sameRecords ht
  · rw [hexec]
    exact (h.of_sameRecords ht).start s c _

end Indexed

end World

/-! ### Payloads -/

namespace Task
variable {w : World} {j : Job}

/-- A job that is not there is not taken. -/
theorem exec_process_of_missing [Host] (hw : w.Steady) (t : Task)
    (hj : w.store.jobs.get? t.job = none) :
    exec t.process w = (w, .ok (.skipped t.job)) := by
  have hnext : Jobs.next t.job .processing w.time [] (w.store.jobs.get? t.job) =
      .error (.noJob t.job) := by
    rw [hj]
    rfl
  have hupdate := Jobs.exec_updateJob hw t.job (Jobs.next t.job .processing w.time [])
  simp only [hnext] at hupdate
  have hmove : exec (Jobs.move t.job .processing []) w = (w, .error (.noJob t.job)) := by
    rw [Jobs.move, exec_bind_of_ok (exec_now w), exec_bind_of_ok hupdate]
    rfl
  rw [process, exec_bind_of_ok (exec_attempt _ w), hmove]
  rfl

/-- A job that was taken ends.  If nothing could be prepared for it, units are given back to the
organization that the task names. -/
theorem exec_carry_ends [Host] (hw : w.Steady) (t : Task) (hj : w.store.jobs.get? j.id = some j)
    (hs : j.status = .processing) :
    ∃ org, (exec (t.carry j) w).1 =
      (w.ended j (t.ending j w.store w.files)).withStore
        ((w.ended j (t.ending j w.store w.files)).store.returned org w.time
          (t.ending j w.store w.files).isCompletion) := by
  rw [carry, exec_bind_of_ok (exec_attempt _ w), exec_prepare hw t]
  unfold ending
  cases t.prepared w.store with
  | ok p =>
    have hexecute := Submission.exec_execute hw hj hs p.1 ⟨p.2⟩ t.fileName
    simp only
    rw [exec_bind_of_ok hexecute, exec_pure]
    exact ⟨j.organization, rfl⟩
  | error e =>
    have hmove : j.status.canMove .failed = true := by
      rw [hs]
      decide
    have hfailed := Submission.exec_markFailed_failing hw hj hmove w.files e.message none
    rw [Option.map_none, World.withFiles_self] at hfailed
    have hended : (w.ended j (Submission.failing w.files e.message none)).Steady :=
      (hw.withFiles _).withStore _
    have hback := Submission.exec_giveBack_of_steady hended t.organization false
    simp only
    rw [exec_bind_of_ok hfailed, exec_bind_of_ok hback, exec_pure]
    exact ⟨t.organization, rfl⟩

end Task

namespace World
variable {w : World}

theorem Indexed.process [Host] (h : w.Indexed) (t : Task) : (exec t.process w).1.Indexed := by
  cases hj : w.store.jobs.get? t.job with
  | none =>
    rw [Task.exec_process_of_missing h.steady t hj]
    exact h
  | some j =>
    by_cases hs : j.status = .pending
    · have hid : j.id = t.job := h.store.keyed t.job j hj
      rw [← hid] at hj
      have hmove : j.status.canMove .processing = true := by
        rw [hs]
        decide
      have htake : exec (Jobs.move j.id .processing []) w = (Task.started w j, .ok (Task.taken w j)) :=
        Jobs.exec_move h.steady hj hmove []
      have hprocess : exec t.process w = exec (t.carry (Task.taken w j)) (Task.started w j) := by
        rw [Task.process, exec_bind_of_ok (exec_attempt _ w), ← hid, htake]
        rfl
      have hstarted : (Task.started w j).Indexed := by
        refine h.withStore (h.store.replaced hj ?_ ?_ ?_ rfl rfl) <;> rw [Task.taken_eq]
      have htaken : (Task.started w j).store.jobs.get? (Task.taken w j).id =
          some (Task.taken w j) := by
        rw [Task.taken_id]
        exact Table.get?_set_self _ _ _
      obtain ⟨org, hcarry⟩ :=
        Task.exec_carry_ends hstarted.steady t htaken (Task.taken_status w j)
      rw [hprocess, hcarry]
      exact (hstarted.ended htaken (Task.finish_ending _ _ _ _)).returned _ _ _
    · rw [Task.exec_process_of_taken h.steady hj hs]
      exact h

/-- Whatever a worker is given, the index stays right. -/
theorem Indexed.processPayload [Host] (h : w.Indexed) (payload : Value) :
    (exec (Task.processPayload payload) w).1.Indexed := by
  rw [Task.processPayload]
  cases Task.ofPayload payload with
  | error e => exact h
  | ok t => exact h.process t

end World

/-! ### Sequences of calls -/

/-- A call, or any payload given to a worker, be it one that was published or not. -/
inductive Errand where
  | call (c : Call)
  | work (payload : Value)

namespace World
variable [Host]
variable {w : World}

def errand (w : World) : Errand → World
  | .call c => w.call c
  | .work payload => (exec (Task.processPayload payload) w).1

def errands (w : World) (es : List Errand) : World := es.foldl errand w

theorem Indexed.call (h : w.Indexed) (c : Call) : (w.call c).Indexed := by
  cases c with
  | submit s => exact h.submit w.settings s
  | deliver n =>
    rw [World.call]
    split
    · exact h.processPayload _
    · exact h
  | save c =>
    rw [World.call, Configurations.exec_save h.steady]
    split
    · exact h.withStore (h.store.of_records (Store.jobs_addConfigurationId _ _ _)
        (Store.jobIndex_addConfigurationId _ _ _))
    · exact h
  | deactivate org id =>
    rw [World.call, Configurations.exec_deactivate h.steady]
    split
    · exact h.withStore (h.store.of_records rfl rfl)
    · exact h
  | advance micros =>
    exact ⟨⟨h.steady.races, h.steady.faults, h.steady.connected⟩, h.store⟩
  | failPublishing after times fault =>
    refine ⟨⟨h.steady.races, fun f hf => ?_, h.steady.connected⟩, h.store⟩
    obtain hf | hf := List.mem_append.mp hf
    · exact h.steady.faults f hf
    · rw [List.mem_singleton.mp hf]
  | lapse org since =>
    rw [World.call]
    split
    · exact h.withStore (h.store.of_records rfl rfl)
    · exact h

theorem Indexed.errand (h : w.Indexed) (e : Errand) : (w.errand e).Indexed := by
  cases e with
  | call c => exact h.call c
  | work payload => exact h.processPayload payload

/-- **In every world that is reached the index is right.** -/
theorem indexed_errands (settings : Settings) (start : Instant) (es : List Errand) :
    ((empty settings start).errands es).Indexed := by
  have hempty : (empty settings start).Indexed :=
    ⟨(sound_empty settings start).steady, Store.indexed_empty⟩
  generalize empty settings start = w at hempty ⊢
  induction es generalizing w with
  | nil => exact hempty
  | cons e es ih => exact ih _ (hempty.errand e)

end World

/-! ### Lists -/

/-- Is a job listed before another when the newest come first?  Of jobs of one time the one with the
larger id is. -/
def Job.IsNewer (a b : Job) : Prop :=
  b.createdAt.toInstant < a.createdAt.toInstant ∨
    (a.createdAt.toInstant = b.createdAt.toInstant ∧ b.id < a.id)

namespace Store
variable {s : Store}

theorem newerFirst_iff (a b : IndexedJob) : newerFirst a b = true ↔
    b.createdAt.toInstant < a.createdAt.toInstant ∨
      (a.createdAt.toInstant = b.createdAt.toInstant ∧ b.id ≤ a.id) := by
  unfold newerFirst
  split
  · next h => simp [h]
  · next h => simp [h]

theorem newerFirst_trans (a b c : IndexedJob) (hab : newerFirst a b = true)
    (hbc : newerFirst b c = true) : newerFirst a c = true := by
  rw [newerFirst_iff] at *
  rcases hab with hab | ⟨hab, hid⟩
  · rcases hbc with hbc | ⟨hbc, -⟩
    · exact .inl (Int.lt_trans hbc hab)
    · exact .inl (hbc ▸ hab)
  · rcases hbc with hbc | ⟨hbc, hid'⟩
    · exact .inl (hab ▸ hbc)
    · exact .inr ⟨hab.trans hbc, String.le_trans hid' hid⟩

theorem newerFirst_total (a b : IndexedJob) : (newerFirst a b || newerFirst b a) = true := by
  rw [Bool.or_eq_true, newerFirst_iff, newerFirst_iff]
  rcases Int.lt_trichotomy a.createdAt.toInstant b.createdAt.toInstant with h | h | h
  · exact .inr (.inl h)
  · rcases String.le_total a.id b.id with hid | hid
    · exact .inr (.inr ⟨h.symm, hid⟩)
    · exact .inl (.inr ⟨h, hid⟩)
  · exact .inl (.inl h)

/-- The stored jobs of an organization, the newest first. -/
def newestFirst (s : Store) (org : String) : List Job :=
  ((s.indexedJobs org).mergeSort newerFirst).filterMap fun e => s.jobs.get? e.id

theorem Indexed.mem_newestFirst (h : s.Indexed) {org : String} {j : Job} :
    j ∈ s.newestFirst org ↔ s.jobs.get? j.id = some j ∧ j.organization = org := by
  rw [newestFirst, List.mem_filterMap]
  constructor
  · rintro ⟨e, he, hj⟩
    obtain ⟨k, hk, horg, -⟩ := (h.mem org e).mp (List.mem_mergeSort.mp he)
    obtain rfl := Option.some.inj (hj.symm.trans hk)
    exact ⟨h.keyed _ _ hj ▸ hj, horg⟩
  · rintro ⟨hj, horg⟩
    exact ⟨⟨j.id, j.createdAt⟩, List.mem_mergeSort.mpr ((h.mem org _).mpr ⟨j, hj, horg, rfl⟩), hj⟩

theorem Indexed.pairwise_newestFirst (h : s.Indexed) (org : String) :
    (s.newestFirst org).Pairwise Job.IsNewer := by
  have hsorted := List.pairwise_mergeSort newerFirst_trans newerFirst_total (s.indexedJobs org)
  have hids : ((s.indexedJobs org).mergeSort newerFirst).Pairwise (fun a b => a.id ≠ b.id) :=
    List.pairwise_map.mp (((List.mergeSort_perm _ _).map _).nodup_iff.mpr (h.once org))
  -- what is indexed has the time and the id of the job
  have hentry {e : IndexedJob} (he : e ∈ (s.indexedJobs org).mergeSort newerFirst) {j : Job}
      (hj : s.jobs.get? e.id = some j) : j.id = e.id ∧ j.createdAt = e.createdAt := by
    obtain ⟨k, hk, -, hcreated⟩ := (h.mem org e).mp (List.mem_mergeSort.mp he)
    obtain rfl := Option.some.inj (hj.symm.trans hk)
    exact ⟨h.keyed _ _ hj, hcreated⟩
  refine (List.Pairwise.and_mem.mp (hsorted.and hids)).filterMap _ fun e f hef a ha b hb => ?_
  obtain ⟨he, hf, hnewer, hne⟩ := hef
  obtain ⟨haid, hacreated⟩ := hentry he ha
  obtain ⟨hbid, hbcreated⟩ := hentry hf hb
  rw [Job.IsNewer, haid, hacreated, hbid, hbcreated]
  exact ((newerFirst_iff e f).mp hnewer).imp_right fun ⟨htime, hle⟩ =>
    ⟨htime, Std.lt_of_le_of_ne hle hne.symm⟩

/-- Every entry of the index is that of a job. -/
theorem Indexed.isSome_of_mem (h : s.Indexed) {org : String} {e : IndexedJob}
    (he : e ∈ (s.indexedJobs org).mergeSort newerFirst) : (s.jobs.get? e.id).isSome = true := by
  obtain ⟨j, hj, -⟩ := (h.mem org e).mp (List.mem_mergeSort.mp he)
  rw [hj]
  rfl

/-- The part of a list up to the element before the one at index `limit`. -/
theorem upTo_pred {α : Type} (xs : List α) (limit : Int) :
    upTo xs (limit - 1) =
      xs.take (if 0 < limit then limit.toNat else (xs.length + limit).toNat) := by
  simp only [upTo]
  congr 1
  split <;> split <;> omega

end Store

theorem filterMap_take_of_isSome {α β : Type} {f : α → Option β} {xs : List α}
    (h : ∀ x ∈ xs, (f x).isSome = true) (n : Nat) :
    (xs.take n).filterMap f = (xs.filterMap f).take n := by
  induction xs generalizing n with
  | nil => simp
  | cons x xs ih =>
    obtain ⟨hx, hxs⟩ := List.forall_mem_cons.mp h
    obtain ⟨y, hy⟩ := Option.isSome_iff_exists.mp hx
    cases n with
    | zero => rfl
    | succ n => rw [List.take_succ_cons, List.filterMap_cons_some hy, List.filterMap_cons_some hy,
        List.take_succ_cons, ih hxs]

/-- What is listed: a positive limit lists the first jobs, any other one leaves out the last ones. -/
theorem Jobs.exec_newest_of_indexed {w : World} (hw : w.Steady) (h : w.store.Indexed) (org : String)
    (limit : Int) :
    exec (newest org limit) w = (w, .ok ((w.store.newestFirst org).take
      (if 0 < limit then limit.toNat else ((w.store.newestFirst org).length + limit).toNat))) := by
  have hsome := fun e (he : e ∈ (w.store.indexedJobs org).mergeSort Store.newerFirst) =>
    h.isSome_of_mem he
  have hlength : (w.store.newestFirst org).length =
      ((w.store.indexedJobs org).mergeSort Store.newerFirst).length :=
    List.filterMap_length_eq_length.mpr hsome
  rw [exec_newest hw, Store.newestJobs, Store.upTo_pred, List.filterMap_map, hlength]
  exact congrArg (fun jobs => (w, Except.ok jobs)) (filterMap_take_of_isSome hsome _)

/-- **What is listed of the jobs of an organization** in every world that is reached.  Its stored jobs
in their present state, each once, the newest first, are one list of which a positive limit lists the
first ones.  A limit of 0 lists all of it, and a negative one leaves out as many of the last. -/
theorem World.newest_jobs_listed [Host] (settings : Settings) (start : Instant) (es : List Errand)
    (org : String) :
    let w := (empty settings start).errands es
    ∃ jobs : List Job, jobs.Pairwise Job.IsNewer ∧
      (∀ j, j ∈ jobs ↔ w.store.jobs.get? j.id = some j ∧ j.organization = org) ∧
      ∀ limit : Int, exec (Jobs.newest org limit) w = (w, .ok (jobs.take
        (if 0 < limit then limit.toNat else (jobs.length + limit).toNat))) := by
  intro w
  have h : w.Indexed := indexed_errands settings start es
  exact ⟨w.store.newestFirst org, h.store.pairwise_newestFirst org, fun _ => h.store.mem_newestFirst,
    Jobs.exec_newest_of_indexed h.steady h.store org⟩

section
attribute [local instance] Host.bare

/-- A limit of 0 lists the only job of an organization. -/
theorem World.newest_jobs_of_limit_zero :
    let w := (empty {} 0).errands [.call (.save .copying), .call (.submit .smallTable)]
    ∃ j, w.store.jobs.get? j.id = some j ∧ exec (Jobs.newest "o" 0) w = (w, .ok [j]) := by
  intro w
  have hjob : ∃ j : Job, w.store.jobs.get? j.id = some j ∧
      w.store.indexedJobs "o" = [⟨j.id, j.createdAt⟩] := ⟨_, rfl, rfl⟩
  obtain ⟨j, hj, hindex⟩ := hjob
  have h : w.Indexed := indexed_errands {} 0 _
  have hlist : w.store.newestFirst "o" = [j] := by
    rw [Store.newestFirst, hindex, List.mergeSort_singleton]
    exact List.filterMap_cons_some hj
  refine ⟨j, hj, ?_⟩
  rw [Jobs.exec_newest_of_indexed h.steady h.store "o" 0, hlist]
  rfl

end

end Sheetflow
