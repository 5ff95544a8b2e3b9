import Sheetflow.Proofs.Service.AllOrNothing
import Sheetflow.Proofs.Service.Records

/-!
# Submissions whose job cannot be created

A job is created by two commands: its record is stored, and then its id is indexed.  Either may fail
(`World.planned`).  The submission fails with it, and what was taken at admission is given back; without
a record nothing is left of the submission.  But a record that was stored already stays, though it was
never indexed, queued or carried out, and nobody gets to know of it (`Submission.LeavesRecord`).

A fault changes nothing for a service that does not call the operation that fails
(`Service.exec_planned`), so admission goes as without it, and so does giving back once the fault is
used up.
-/

namespace Sheetflow

open Service

/-! ### Planned faults -/

/-- The operation that a command calls, if it calls one and no more. -/
def Command.operation? : Command → Option Operation
  | .getConfiguration _ => some .get
  | .setConfiguration _ => some .set
  | .getConfigurations _ => some .mget
  | .indexConfiguration _ _ => some .sadd
  | .configurationIds _ => some .smembers
  | .createJob _ => some .set
  | .getJob _ => some .get
  | .getJobs _ => some .mget
  | .indexJob _ => some .zadd
  | .newestJobs _ _ => some .zrevrange
  | .updateJob _ _ => none
  | .increment _ => some .incr
  | .decrement _ => some .decr
  | .resetCounter _ => some .set
  | .readCounter _ => some .get
  | .setLifetime _ _ => some .expire
  | .ping => some .ping
  | .enqueue _ => some .enqueue
  | .queueLength => some .queueCount
  | .writeFile _ _ => none
  | .readFile _ => none

namespace PlannedFault

/-- The next call of an operation fails. -/
def once (op : Operation) (f : Fault) : PlannedFault := ⟨op, 0, 1, f⟩

/-- The fault is used up. -/
def used (op : Operation) (f : Fault) : PlannedFault := ⟨op, 0, 0, f⟩

/-- The fault does not concern an operation. -/
def Idle (p : PlannedFault) (op : Operation) : Prop := ¬ (p.operation = op ∧ 0 < p.times)

theorem idle_used (op other : Operation) (f : Fault) : (used op f).Idle other :=
  fun h => absurd h.2 (Nat.lt_irrefl 0)

theorem idle_once {op other : Operation} (h : op ≠ other) (f : Fault) : (once op f).Idle other :=
  fun hc => h hc.1

end PlannedFault

namespace World
variable {p : PlannedFault}

/-- The world in which one more thing is planned to go wrong. -/
def planned (w : World) (p : PlannedFault) : World := { w with faults := p :: w.faults }

theorem Untouched.planned {w w' : World} (h : w.Untouched w') (p : PlannedFault) :
    w.Untouched (w'.planned p) :=
  ⟨h.records, h.counts, h.queue, h.publications, h.files⟩

/-- A fault that does not concern an operation stays. -/
theorem attempt_planned {op : Operation} (h : p.Idle op) {ρ : Type}
    {act : World → World × Except Fault ρ}
    (hact : ∀ v, act (v.planned p) = ((act v).1.planned p, (act v).2)) (w : World) :
    (w.planned p).attempt op act = ((w.attempt op act).1.planned p, (w.attempt op act).2) := by
  have hcount : countCall op (w.planned p).faults =
      (p :: (countCall op w.faults).1, (countCall op w.faults).2) := by
    rw [planned, countCall, if_neg h]
  rw [attempt, hcount, attempt]
  obtain ⟨faults, fault⟩ := countCall op w.faults
  cases fault with
  | some f => rfl
  | none => exact hact { w with faults, connected := w.connected || op.isOnStore }

theorem perform_planned {c : Command} {op : Operation} (hc : c.operation? = some op) (h : p.Idle op)
    (w : World) : (w.planned p).perform c = ((w.perform c).1.planned p, (w.perform c).2) := by
  cases c with
  | updateJob id update => cases hc
  | writeFile path bs => cases hc
  | readFile path => cases hc
  | createJob j =>
    obtain rfl := Option.some.inj hc
    rw [perform, perform]
    refine attempt_planned h (fun v => ?_) w
    show (if (v.store.jobs.get? j.id).isSome then _ else _) = _
    split <;> rfl
  | ping =>
    obtain rfl := Option.some.inj hc
    rw [perform, perform]
    show (if w.connected then _ else _) = _
    split
    · exact attempt_planned h (fun _ => rfl) w
    · rfl
  | _ =>
    obtain rfl := Option.some.inj hc
    rw [perform, perform]
    exact attempt_planned h (fun _ => rfl) w

theorem clock_perform {c : Command} {op : Operation} (hc : c.operation? = some op) (w : World) :
    (w.perform c).1.clock = w.clock := by
  have hattempt {ρ : Type} {op : Operation} {act : World → World × Except Fault ρ}
      (h : ∀ v, (act v).1.clock = v.clock) : (w.attempt op act).1.clock = w.clock :=
    attempt_induction (Q := fun v => v.clock = w.clock) w op (fun _ _ => rfl) fun _ _ => h _
  cases c with
  | updateJob id update => cases hc
  | writeFile path bs => cases hc
  | readFile path => cases hc
  | createJob j =>
    rw [perform]
    refine hattempt fun v => ?_
    split <;> rfl
  | ping =>
    rw [perform]
    split
    · exact hattempt fun _ => rfl
    · rfl
  | _ =>
    rw [perform]
    exact hattempt fun _ => rfl

end World

/-- A command of one operation, which a fault does not concern. -/
def PlannedFault.Spares (p : PlannedFault) (c : Command) : Prop :=
  ∃ op, c.operation? = some op ∧ p.Idle op

theorem Program.run_planned {α : Type} {p : PlannedFault} {program : Program α} {w : World}
    (h : program.Gives w.time p.Spares) :
    program.run (w.planned p) = ((program.run w).1.planned p, (program.run w).2) := by
  induction program generalizing w with
  | done a => rfl
  | now next ih => exact ih _ h
  | freshId kind next ih =>
    show (next (kind.id (w.ids + 1))).run (w.counted.planned p) = _
    exact ih _ (h _)
  | call c next ih =>
    obtain ⟨⟨op, hc, hidle⟩, hnext⟩ := h
    have htime : (w.perform c).1.time = w.time := congrArg DateTime.ofInstant (World.clock_perform hc w)
    rw [run, World.perform_planned hc hidle]
    exact ih _ (htime ▸ hnext _)

/-- **A fault that a service does not meet changes nothing.** -/
theorem Service.exec_planned {α : Type} {p : PlannedFault} {service : Service α} {w : World}
    (h : Gives w.time p.Spares service) :
    exec service (w.planned p) = ((exec service w).1.planned p, (exec service w).2) :=
  Program.run_planned h.commands

/-- A call of the operation that is planned to fail. -/
theorem World.attempt_once {w : World} (hconnected : w.connected = true) (op : Operation) (f : Fault)
    {ρ : Type} (act : World → World × Except Fault ρ) :
    (w.planned (.once op f)).attempt op act = (w.planned (.used op f), .error f) := by
  have hcount : countCall op (w.planned (.once op f)).faults = (.used op f :: w.faults, some f) := by
    rw [planned, countCall, if_pos ⟨rfl, Nat.one_pos⟩]
    rfl
  rw [attempt, hcount]
  simp only [planned, hconnected, Bool.true_or]

/-! ### The two commands -/

namespace Jobs
variable {w : World} {j : Job}

/-- If storing the record fails there is none. -/
theorem exec_create_of_set_fails (hw : w.Steady) (hs : j.status.isInitial = true) (f : Fault) :
    exec (create j) (w.planned (.once .set f)) =
      (w.planned (.used .set f), .error (.unavailable f)) := by
  have hcreate : @exec Bool (command (.createJob j)) (w.planned (.once .set f)) =
      (w.planned (.used .set f), .error (.unavailable f)) := by
    refine (exec_command _ _).trans ?_
    rw [World.perform, World.attempt_once hw.connected]
    rfl
  rw [create, if_pos hs, exec_bind_of_error hcreate]

/-- If indexing the record fails it is stored already. -/
theorem exec_create_of_zadd_fails (hw : w.Steady) (hs : j.status.isInitial = true)
    (hj : w.store.jobs.get? j.id = none) (f : Fault) :
    exec (create j) (w.planned (.once .zadd f)) =
      ((w.withStore { w.store with jobs := w.store.jobs.set j.id j }).planned (.used .zadd f),
        .error (.unavailable f)) := by
  have hcreate : @exec Bool (command (.createJob j)) (w.planned (.once .zadd f)) =
      ((w.withStore { w.store with jobs := w.store.jobs.set j.id j }).planned (.once .zadd f),
        .ok true) := by
    refine exec_command_of_perform ?_
    rw [World.perform_planned rfl (PlannedFault.idle_once (by decide) f), World.perform,
      World.attempt_of_steady hw (by decide), hj]
    rfl
  have hindex : exec (command (.indexJob j))
      ((w.withStore { w.store with jobs := w.store.jobs.set j.id j }).planned (.once .zadd f)) =
      ((w.withStore { w.store with jobs := w.store.jobs.set j.id j }).planned (.used .zadd f),
        .error (.unavailable f)) := by
    rw [exec_command, World.perform, World.attempt_once (hw.withStore _).connected]
    rfl
  rw [create, if_pos hs, exec_bind_of_ok hcreate, if_pos rfl, exec_bind_of_error hindex]

/-- If the id is in use already, nothing is indexed. -/
theorem exec_create_of_exists_planned (hw : w.Steady) {k : Job} (hs : j.status.isInitial = true)
    (hk : w.store.jobs.get? j.id = some k) (f : Fault) :
    exec (create j) (w.planned (.once .zadd f)) =
      (w.planned (.once .zadd f), .error (.jobExists j.id)) := by
  have hcreate : @exec Bool (command (.createJob j)) (w.planned (.once .zadd f)) =
      (w.planned (.once .zadd f), .ok false) := by
    refine exec_command_of_perform ?_
    rw [World.perform_planned rfl (PlannedFault.idle_once (by decide) f), World.perform,
      World.attempt_of_steady hw (by decide), hk]
    rfl
  rw [create, if_pos hs, exec_bind_of_ok hcreate, if_neg (by decide)]
  rfl

end Jobs

namespace Store

/-- What is given back does not depend on the jobs. -/
theorem returned_withJobs (s : Store) (jobs : Table String Job) (org : String) (t : DateTime) :
    ({ s with jobs } : Store).returned org t false = { s.returned org t false with jobs } := by
  have htake (u : Store) (c : Counter) :
      ({ u with jobs } : Store).takeBack c = { u.takeBack c with jobs } := by
    simp only [takeBack]
    show (if u.count c - 1 < 0 then _ else _) = _
    split <;> rfl
  simp only [returned, Bool.false_eq_true, if_false, htake]

end Store

namespace Submission
variable {w : World} {t : DateTime} {p : PlannedFault}

/-- What is taken for a job that cannot be created is given back. -/
theorem exec_createJob_of_error (hw : w.Steady) {s : Submission} {j : Job} {v : World}
    (hp : p.Idle .decr) (hp' : p.Idle .set) {e : ServiceError}
    (h : exec (Jobs.create j) v = (w.planned p, .error e)) :
    exec (createJob s j) v =
      ((w.withStore (w.store.returned s.organization w.time false)).planned p, .error e) := by
  have hback : exec (giveBack s.organization false) (w.planned p) =
      ((w.withStore (w.store.returned s.organization w.time false)).planned p, .ok ()) := by
    rw [exec_planned (gives_giveBack (fun _ => ⟨.decr, rfl, hp⟩) (fun _ => ⟨.set, rfl, hp'⟩) _ _),
      exec_giveBack_of_steady hw]
  rw [createJob, exec_bind_of_ok (exec_attempt _ _), h]
  simp only
  rw [exec_bind_of_ok hback]
  rfl

/-! ### Before the creation -/

/-- Everything before the creation of the job. -/
def admitted (settings : Settings) (s : Submission) : Service Configuration := do
  let c ← configurationFor s.organization s.configuration
  if FileName.isSupported s.fileName then
    match ← Quota.reserve settings s.organization s.file.size with
    | .denied reason _ => throw (.denied (if reason = "" then "Quota exceeded" else reason))
    | .allowed _ => return c
  else throw (.unsupportedFile s.fileName)

theorem exec_submit [Host] (settings : Settings) (s : Submission) (w : World) :
    exec (submit settings s) w = exec (admitted settings s >>= fun c =>
      start s c (Mode.choose settings s.file.size s.async s.callbackUrl)) w := by
  rw [submit_eq, admitted, exec_bind, exec_bind, exec_bind]
  obtain ⟨v, r⟩ := exec (configurationFor s.organization s.configuration) w
  cases r with
  | error e => rfl
  | ok c =>
    simp only
    split
    · rw [exec_bind, exec_bind]
      obtain ⟨v, r⟩ := exec (Quota.reserve settings s.organization s.file.size) v
      rcases r with e | ⟨counts⟩ | ⟨reason, counts⟩ <;> rfl
    · rfl

/-- Admission does not store or index anything. -/
theorem gives_admitted (hget : p.Idle .get) (hincr : p.Idle .incr) (hdecr : p.Idle .decr)
    (hexpire : p.Idle .expire) (settings : Settings) (s : Submission) :
    Gives t p.Spares (admitted settings s) := by
  unfold admitted configurationFor Configurations.find?
  refine .bind (.bind (.bind (gives_command ⟨.get, rfl, hget⟩) fun _ => gives_pure _)
    fun found => ?_) fun c => ?_
  · split
    · exact gives_pure _
    · exact gives_throw _
  · split
    · refine .bind (Quota.gives_reserve (fun _ => ⟨.incr, rfl, hincr⟩) (fun _ => ⟨.decr, rfl, hdecr⟩)
        (fun _ _ => ⟨.expire, rfl, hexpire⟩) _ _ _) fun decision => ?_
      split
      · exact gives_throw _
      · exact gives_pure _
    · exact gives_throw _

/-- A fault of an operation that comes later is still to come when the job is created. -/
theorem exec_submit_planned [Host] (w : World) {op : Operation}
    (hop : op ∉ [Operation.get, .incr, .decr, .expire]) (settings : Settings) (s : Submission) (f : Fault) :
    exec (submit settings s) (w.planned (.once op f)) =
      match exec (admitted settings s) w with
      | (v, .ok c) => exec (start s c (Mode.choose settings s.file.size s.async s.callbackUrl))
          (v.planned (.once op f))
      | (v, .error e) => (v.planned (.once op f), .error e) := by
  simp only [List.mem_cons, List.not_mem_nil, or_false, not_or] at hop
  obtain ⟨hget, hincr, hdecr, hexpire⟩ := hop
  have hgives := gives_admitted (t := w.time) (PlannedFault.idle_once hget f)
    (PlannedFault.idle_once hincr f) (PlannedFault.idle_once hdecr f)
    (PlannedFault.idle_once hexpire f) settings s
  rw [exec_submit, exec_bind, exec_planned hgives]
  obtain ⟨v, r⟩ := exec (admitted settings s) w
  cases r <;> rfl

/-- In a steady world nothing is left of a submission that is not admitted, and a unit of each count
is taken for one that is. -/
theorem exec_admitted (h : w.Steady) (settings : Settings) (s : Submission) :
    (∃ u e, exec (admitted settings s) w = (w.withStore u, .error e) ∧
        Quota.Took w.store (fun _ => False) u) ∨
      ∃ u c, exec (admitted settings s) w = (w.withStore u, .ok c) ∧
        Quota.Took w.store
          (fun k => k = .active s.organization ∨ k = Quota.monthly s.organization w.time) u := by
  have hsame : Quota.Took w.store (fun _ => False) w.store := ⟨.rfl' _, fun k => by simp⟩
  rw [admitted, exec_bind, exec_configurationFor h]
  cases (w.store.configurations.get? s.configuration).filter
    (Configurations.isVisible s.organization false) with
  | none => exact .inl ⟨w.store, _, rfl, hsame⟩
  | some c =>
    simp only
    split
    · have hadmits := Quota.exec_reserve h settings s.organization s.file.size
      rw [exec_bind]
      generalize exec (Quota.reserve settings s.organization s.file.size) w = r at hadmits
      cases hadmits with
      | denied u reason counts hu => exact .inl ⟨u, _, rfl, hu⟩
      | allowed u counts hu within => exact .inr ⟨u, c, rfl, hu⟩
    · exact .inl ⟨w.store, _, rfl, hsame⟩

/-! ### The creation -/

section Start
variable [Host]
variable (hw : w.Steady) (s : Submission) (c : Configuration) (mode : Mode) (f : Fault)
include hw

theorem exec_start_of_set_fails :
    exec (start s c mode) (w.planned (.once .set f)) =
      ((w.withNextId.withStore (w.store.returned s.organization w.time false)).planned (.used .set f),
        .error (.unavailable f)) := by
  have hcreate := Jobs.exec_create_of_set_fails hw.withNextId (isInitial_firstJob s c mode w) f
  have hjob := exec_createJob_of_error hw.withNextId (s := s) (PlannedFault.idle_used _ _ _)
    (PlannedFault.idle_used _ _ _) hcreate
  rw [exec_start]
  exact exec_bind_of_error hjob _

theorem exec_start_of_zadd_fails (hnew : w.store.jobs.get? (IdKind.job.id (w.ids + 1)) = none) :
    exec (start s c mode) (w.planned (.once .zadd f)) =
      ((w.withNextId.withStore { w.store.returned s.organization w.time false with
          jobs := w.store.jobs.set (s.firstJob c mode w).id (s.firstJob c mode w) }).planned
        (.used .zadd f), .error (.unavailable f)) := by
  have hcreate :=
    Jobs.exec_create_of_zadd_fails hw.withNextId (isInitial_firstJob s c mode w) hnew f
  have hjob := exec_createJob_of_error (hw.withNextId.withStore _) (s := s)
    (PlannedFault.idle_used _ _ _) (PlannedFault.idle_used _ _ _) hcreate
  rw [World.withStore_store, Store.returned_withJobs] at hjob
  rw [exec_start]
  exact exec_bind_of_error hjob _

theorem exec_start_of_exists_planned {k : Job}
    (hk : w.store.jobs.get? (IdKind.job.id (w.ids + 1)) = some k) :
    exec (start s c mode) (w.planned (.once .zadd f)) =
      ((w.withNextId.withStore (w.store.returned s.organization w.time false)).planned (.once .zadd f),
        .error (.jobExists (IdKind.job.id (w.ids + 1)))) := by
  have hcreate :=
    Jobs.exec_create_of_exists_planned hw.withNextId (isInitial_firstJob s c mode w) hk f
  have hjob := exec_createJob_of_error hw.withNextId (s := s) (PlannedFault.idle_once (by decide) f)
    (PlannedFault.idle_once (by decide) f) hcreate
  rw [exec_start]
  exact exec_bind_of_error hjob _

/-- Without a fault the submission is answered. -/
theorem exec_start_isOk (hnew : w.store.jobs.get? (IdKind.job.id (w.ids + 1)) = none) :
    ∃ out, (exec (start s c mode) w).2 = .ok out := by
  cases mode with
  | sync => exact ⟨_, congrArg Prod.snd (exec_start_sync hw s c hnew)⟩
  | queued =>
    cases hpublish : (World.countCall .enqueue w.faults).2 with
    | some f => exact ⟨_, congrArg Prod.snd (exec_start_unqueued hw s c hnew hpublish)⟩
    | none => exact ⟨_, congrArg Prod.snd (exec_start_queued hw s c hnew hpublish)⟩

end Start

/-- A record stays of a submission that failed, and nothing else. -/
structure LeavesRecord (s : Submission) (w w' : World) (j : Job) : Prop where
  new : w.store.jobs.get? j.id = none
  owner : j.organization = s.organization
  initial : j.status.isInitial = true
  jobs : w'.store.jobs = w.store.jobs ++ [(j.id, j)]
  rest : w.Untouched (w'.withStore { w'.store with jobs := w.store.jobs })

/-- **What is left of a submission when the creation of its job fails.**  It fails as well, and if the
record could not be stored, nothing is left.  If the record was stored and could not be indexed, the
record is left: nothing else is there, counts and queue are as before, but the job stays as it was at
the start.  The fault of a creation that is not reached makes no difference. -/
theorem submit_of_failing_creation [Host] (h : w.Ordered) (settings : Settings) (s : Submission)
    (f : Fault) :
    ∃ w₁ w₂ e₁ e₂,
      exec (submit settings s) (w.planned (.once .set f)) = (w₁, .error e₁) ∧
      exec (submit settings s) (w.planned (.once .zadd f)) = (w₂, .error e₂) ∧
      w.Untouched w₁ ∧
      match (exec (submit settings s) w).2 with
      | .ok _ => e₁ = .unavailable f ∧ e₂ = .unavailable f ∧ ∃ j, s.LeavesRecord w w₂ j
      | .error e => (e₁ = e ∨ e₁ = .unavailable f) ∧ e₂ = e ∧ w.Untouched w₂ := by
  have hset := exec_submit_planned w (show Operation.set ∉ _ by decide) settings s f
  have hzadd := exec_submit_planned w (show Operation.zadd ∉ _ by decide) settings s f
  rw [exec_submit settings s w, exec_bind]
  obtain ⟨t, e, hadmitted, ht⟩ | ⟨t, c, hadmitted, ht⟩ := exec_admitted h.steady settings s
  · have huntouched : w.Untouched (w.withStore t) :=
      .of_store ht.records fun k => by rw [ht.counts, if_neg not_false, Int.add_zero]
    rw [hadmitted] at hset hzadd ⊢
    exact ⟨_, _, _, _, hset, hzadd, huntouched.planned _, .inl rfl, rfl, huntouched.planned _⟩
  · have hw := h.steady.withStore t
    have hrecords : w.store.SameRecords (t.returned s.organization w.time false) :=
      ht.records.trans (.returned _ _ _ _)
    have hreturned : w.Untouched ((w.withStore t).withNextId.withStore
        (t.returned s.organization w.time false)) :=
      ⟨hrecords, World.count_returned_of_took h.sound ht, rfl, rfl, rfl⟩
    rw [hadmitted] at hset hzadd ⊢
    simp only at hset hzadd ⊢
    rw [exec_start_of_set_fails hw] at hset
    cases hid : t.jobs.get? (IdKind.job.id (w.ids + 1)) with
    | some k =>
      rw [exec_start_of_exists_planned hw _ _ _ _ hid] at hzadd
      rw [exec_start_of_exists hw _ _ _ hid]
      exact ⟨_, _, _, _, hset, hzadd, hreturned.planned _, .inr rfl, rfl, hreturned.planned _⟩
    | none =>
      rw [exec_start_of_zadd_fails hw _ _ _ _ hid] at hzadd
      obtain ⟨out, hout⟩ := exec_start_isOk hw s c
        (Mode.choose settings s.file.size s.async s.callbackUrl) hid
      rw [hout]
      refine ⟨_, _, _, _, hset, hzadd, hreturned.planned _, rfl, rfl,
        s.firstJob c (Mode.choose settings s.file.size s.async s.callbackUrl) w, ?_⟩
      rw [ht.records.jobs] at hid
      refine ⟨hid, rfl, isInitial_firstJob _ _ _ _, ?_, ?_⟩
      · exact (congrArg (fun jobs : Table String Job => jobs.set _ _) ht.records.jobs).trans
          (Table.set_of_get?_none hid _)
      · exact ⟨⟨hrecords.configurations, hrecords.configurationIndex, rfl, hrecords.jobIndex⟩,
          World.count_returned_of_took h.sound ht, rfl, rfl, rfl⟩

section
attribute [local instance] Host.bare

/-- The small table is submitted when the index fails: its record is left and waits to be queued. -/
theorem submit_of_failing_creation_small_table :
    let w := (World.empty {} 0).calls [.save .copying]
    let f : Fault := ⟨"ConnectionError", none, "down"⟩
    w.Ordered ∧ ∃ w₁ w₂,
      exec (submit {} smallTable) (w.planned (.once .set f)) = (w₁, .error (.unavailable f)) ∧
      exec (submit {} smallTable) (w.planned (.once .zadd f)) = (w₂, .error (.unavailable f)) ∧
      w.Untouched w₁ ∧ ∃ j, smallTable.LeavesRecord w w₂ j := by
  intro w f
  have h : w.Ordered := World.ordered_calls {} 0 [.save .copying]
  have hok : (exec (submit {} smallTable) w).2.isOk = true := by decide +kernel
  obtain ⟨w₁, w₂, e₁, e₂, hset, hzadd, huntouched, hcases⟩ :=
    submit_of_failing_creation h {} smallTable f
  cases hr : (exec (submit {} smallTable) w).2 with
  | error e =>
    rw [hr] at hok
    cases hok
  | ok out =>
    rw [hr] at hcases
    obtain ⟨rfl, rfl, hleaves⟩ := hcases
    exact ⟨h, w₁, w₂, hset, hzadd, huntouched, hleaves⟩

/-- **A submission that failed may leave a record behind**: in the world in which indexing fails once, the
record of the small table is stored and pending, though its submission failed, and no index holds it. -/
theorem submit_leaves_record :
    let w := ((World.empty {} 0).calls [.save .copying]).planned
      (.once .zadd ⟨"ConnectionError", none, "down"⟩)
    let r := exec (submit {} smallTable) w
    (w.store.jobs.get? (IdKind.job.id 1)).isNone = true ∧ r.2.isOk = false ∧
      (r.1.store.jobs.get? (IdKind.job.id 1)).map Job.status = some .pending ∧
      r.1.store.jobIndex = [] ∧ r.1.queue = [] := by
  decide +kernel

end

end Submission

end Sheetflow
