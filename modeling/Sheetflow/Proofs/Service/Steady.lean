import Sheetflow.Proofs.Service.Exec
import Sheetflow.Service.Submission

/-!
# Services in steady worlds

A world is steady if nobody else writes to jobs and nothing is planned to go wrong but publishing.
There a command to the store does what it is for, at once and completely
(`World.attempt_of_steady`), and so each small service comes to an equation that says what it
makes of the store and what it replies.

Counters are seen through `Store.count` only: `Store.takeBack` and `Store.returned` are what giving
back a unit and ending a job make of them.
-/

namespace Sheetflow

open Service

/-- Nobody else writes to jobs, and nothing will go wrong with the store. -/
structure World.Steady (w : World) : Prop where
  races : w.races = []
  faults : ∀ f ∈ w.faults, f.operation = .enqueue
  connected : w.connected = true

namespace World
variable {w : World}

@[simp] theorem withStore_store (w : World) (s : Store) : (w.withStore s).store = s := rfl

theorem countCall_of_forall_ne {op : Operation} {fs : List PlannedFault}
    (h : ∀ f ∈ fs, f.operation ≠ op) : countCall op fs = (fs, none) := by
  induction fs with
  | nil => rfl
  | cons f fs ih =>
    have hf : ¬ (f.operation = op ∧ 0 < f.times) := fun hc => h f List.mem_cons_self hc.1
    rw [countCall, if_neg hf, ih fun g hg => h g (List.mem_cons_of_mem f hg)]

/-- An operation that is not going to fail just happens, if there is a connection. -/
theorem attempt_of_forall_ne {op : Operation} (hfaults : ∀ f ∈ w.faults, f.operation ≠ op)
    (hconnected : w.connected = true) {ρ : Type} (act : World → World × Except Fault ρ) :
    w.attempt op act = act w := by
  rw [attempt, countCall_of_forall_ne hfaults]
  simp only [hconnected, Bool.true_or]
  rw [← hconnected]

/-- In a steady world an operation on the store just happens. -/
theorem attempt_of_steady (hw : w.Steady) {op : Operation} (hop : op ≠ .enqueue) {ρ : Type}
    (act : World → World × Except Fault ρ) : w.attempt op act = act w :=
  attempt_of_forall_ne (fun f hf => hw.faults f hf ▸ hop.symm) hw.connected act

/-- A job that is there to be replaced is replaced. -/
theorem updateJob_of_steady (hw : w.Steady) {id : String}
    {update : Option Job → Except ServiceError Job} {j : Job}
    (hj : update (w.store.jobs.get? id) = .ok j) :
    updateJob id update [] w =
      (w.withStore { w.store with jobs := w.store.jobs.set id j }, .ok (.ok j)) := by
  rw [updateJob, attempt_of_steady hw (by decide), attempt_of_steady hw (by decide)]
  simp only [hj]
  rw [attempt_of_steady hw (by decide)]
  rfl

theorem updateJob_of_refused (hw : w.Steady) {id : String}
    {update : Option Job → Except ServiceError Job} {e : ServiceError}
    (he : update (w.store.jobs.get? id) = .error e) :
    updateJob id update [] w = (w, .ok (.error e)) := by
  rw [updateJob, attempt_of_steady hw (by decide), attempt_of_steady hw (by decide)]
  simp only [he]
  rfl

theorem perform_increment (hw : w.Steady) (c : Counter) :
    w.perform (.increment c) = (w.withStore (w.store.addTo c 1), .ok (w.store.count c + 1)) := by
  rw [perform, attempt_of_steady hw (by decide)]
  rfl

theorem perform_decrement (hw : w.Steady) (c : Counter) :
    w.perform (.decrement c) = (w.withStore (w.store.addTo c (-1)), .ok (w.store.count c - 1)) := by
  rw [perform, attempt_of_steady hw (by decide)]
  rfl

theorem perform_setLifetime (hw : w.Steady) (c : Counter) (seconds : Nat) :
    w.perform (.setLifetime c seconds) = (w.withStore (w.store.setLifetime c seconds), .ok ()) := by
  rw [perform, attempt_of_steady hw (by decide)]
  rfl

namespace Steady

theorem withStore (hw : w.Steady) (s : Store) : (w.withStore s).Steady :=
  ⟨hw.races, hw.faults, hw.connected⟩

end Steady

end World

theorem Service.exec_command_of_perform {w w' : World} {c : Command} {r : c.Reply}
    (h : w.perform c = (w', .ok r)) : exec (command c) w = (w', .ok r) := by
  rw [exec_command, h]
  rfl

/-! ### Counters -/

namespace Store

theorem count_addTo (s : Store) (c d : Counter) (n : Int) :
    (s.addTo c n).count d = if d = c then s.count c + n else s.count d := by
  by_cases h : d = c
  · rw [if_pos h, h, count, addTo, Table.get?_set_self, Option.getD_some]
  · rw [if_neg h, count, addTo, Table.get?_set_ne _ _ h, count]

theorem count_setCounter (s : Store) (c d : Counter) (n : Int) :
    (s.setCounter c n).count d = if d = c then n else s.count d := by
  by_cases h : d = c
  · rw [if_pos h, h, count, setCounter, Table.get?_set_self, Option.getD_some]
  · rw [if_neg h, count, setCounter, Table.get?_set_ne _ _ h, count]

theorem count_setLifetime (s : Store) (c d : Counter) (seconds : Nat) :
    (s.setLifetime c seconds).count d = s.count d := by
  unfold setLifetime
  split <;> rfl

/-- Take one from a counter, down to zero. -/
def takeBack (s : Store) (c : Counter) : Store :=
  if s.count c - 1 < 0 then (s.addTo c (-1)).setCounter c 0 else s.addTo c (-1)

theorem count_takeBack (s : Store) (c d : Counter) :
    (s.takeBack c).count d = if d = c then max (s.count c - 1) 0 else s.count d := by
  unfold takeBack
  split
  · rw [count_setCounter, count_addTo]
    split <;> omega
  · rw [count_addTo]
    split <;> omega

/-- Return what an organization has when a job ends at a time: the slot, and the unit of the month
unless the job was completed. -/
def returned (s : Store) (org : String) (t : DateTime) (completed : Bool) : Store :=
  if completed then s.takeBack (.active org)
  else (s.takeBack (.active org)).takeBack (Quota.monthly org t)

/-- The stores have the same configurations and jobs; they may differ in counters. -/
structure SameRecords (s t : Store) : Prop where
  configurations : t.configurations = s.configurations
  configurationIndex : t.configurationIndex = s.configurationIndex
  jobs : t.jobs = s.jobs
  jobIndex : t.jobIndex = s.jobIndex

namespace SameRecords
variable {s t u : Store}

theorem rfl' (s : Store) : SameRecords s s := ⟨rfl, rfl, rfl, rfl⟩

theorem trans (h : SameRecords s t) (g : SameRecords t u) : SameRecords s u :=
  ⟨g.configurations.trans h.configurations, g.configurationIndex.trans h.configurationIndex,
    g.jobs.trans h.jobs, g.jobIndex.trans h.jobIndex⟩

theorem addTo (s : Store) (c : Counter) (n : Int) : SameRecords s (s.addTo c n) :=
  ⟨rfl, rfl, rfl, rfl⟩

theorem setLifetime (s : Store) (c : Counter) (seconds : Nat) :
    SameRecords s (s.setLifetime c seconds) := by
  unfold Store.setLifetime
  split <;> exact ⟨rfl, rfl, rfl, rfl⟩

theorem takeBack (s : Store) (c : Counter) : SameRecords s (s.takeBack c) := by
  unfold Store.takeBack
  split <;> exact ⟨rfl, rfl, rfl, rfl⟩

theorem returned (s : Store) (org : String) (t : DateTime) (completed : Bool) :
    SameRecords s (s.returned org t completed) := by
  unfold Store.returned
  split
  · exact takeBack s _
  · exact (takeBack s _).trans (takeBack _ _)

end SameRecords

end Store

namespace Quota
variable {w : World}

theorem exec_increment (hw : w.Steady) (c : Counter) :
    @exec Int (command (.increment c)) w =
      (w.withStore (w.store.addTo c 1), .ok (w.store.count c + 1)) :=
  exec_command_of_perform (World.perform_increment hw c)

theorem exec_decrement (hw : w.Steady) (c : Counter) :
    @exec Int (command (.decrement c)) w =
      (w.withStore (w.store.addTo c (-1)), .ok (w.store.count c - 1)) :=
  exec_command_of_perform (World.perform_decrement hw c)

theorem exec_resetCounter (hw : w.Steady) (c : Counter) :
    exec (command (.resetCounter c)) w = (w.withStore (w.store.setCounter c 0), .ok ()) := by
  refine exec_command_of_perform ?_
  rw [World.perform, World.attempt_of_steady hw (by decide)]
  rfl

theorem exec_setLifetime (hw : w.Steady) (c : Counter) (seconds : Nat) :
    exec (command (.setLifetime c seconds)) w =
      (w.withStore (w.store.setLifetime c seconds), .ok ()) :=
  exec_command_of_perform (World.perform_setLifetime hw c seconds)

theorem exec_readCounter (hw : w.Steady) (c : Counter) :
    @exec (Option Int) (command (.readCounter c)) w = (w, .ok (w.store.counters.get? c)) := by
  refine exec_command_of_perform ?_
  rw [World.perform, World.attempt_of_steady hw (by decide)]
  rfl

theorem exec_giveBack (hw : w.Steady) (c : Counter) :
    exec (giveBack c) w = (w.withStore (w.store.takeBack c), .ok (max (w.store.count c - 1) 0)) := by
  rw [giveBack, exec_bind_of_ok (exec_decrement hw c), Store.takeBack]
  by_cases h : w.store.count c - 1 < 0
  · rw [if_pos h, if_pos h, exec_bind_of_ok (exec_resetCounter (hw.withStore _) c), exec_pure,
      Int.max_eq_right (by omega)]
    rfl
  · rw [if_neg h, if_neg h, exec_pure, Int.max_eq_left (by omega)]

theorem exec_usage (hw : w.Steady) (s : Settings) (org : String) :
    exec (usage s org) w =
      (w, .ok ⟨w.store.count (.active org), w.store.count (monthly org w.time), s⟩) := by
  rw [usage, exec_bind_of_ok (exec_readCounter hw _), exec_bind_of_ok (exec_now w),
    exec_bind_of_ok (exec_readCounter hw _), exec_pure]
  rfl

end Quota

/-! ### Configurations -/

namespace Store

theorem jobs_addConfigurationId (s : Store) (org id : String) :
    (s.addConfigurationId org id).jobs = s.jobs := by
  unfold addConfigurationId
  dsimp only
  split <;> rfl

theorem count_addConfigurationId (s : Store) (org id : String) (k : Counter) :
    (s.addConfigurationId org id).count k = s.count k := by
  unfold addConfigurationId
  dsimp only
  split <;> rfl

end Store

namespace Configurations
variable {w : World}

theorem exec_getConfiguration (hw : w.Steady) (id : String) :
    @exec (Option Configuration) (command (.getConfiguration id)) w =
      (w, .ok (w.store.configurations.get? id)) := by
  refine exec_command_of_perform ?_
  rw [World.perform, World.attempt_of_steady hw (by decide)]
  rfl

theorem exec_setConfiguration (hw : w.Steady) (c : Configuration) :
    exec (command (.setConfiguration c)) w =
      (w.withStore { w.store with configurations := w.store.configurations.set c.id c }, .ok ()) := by
  refine exec_command_of_perform ?_
  rw [World.perform, World.attempt_of_steady hw (by decide)]
  rfl

theorem exec_indexConfiguration (hw : w.Steady) (org id : String) :
    exec (command (.indexConfiguration org id)) w =
      (w.withStore (w.store.addConfigurationId org id), .ok ()) := by
  refine exec_command_of_perform ?_
  rw [World.perform, World.attempt_of_steady hw (by decide)]
  rfl

theorem exec_find? (hw : w.Steady) (org id : String) (inactive : Bool) :
    exec (find? org id inactive) w =
      (w, .ok ((w.store.configurations.get? id).filter (isVisible org inactive))) := by
  rw [find?, exec_bind_of_ok (exec_getConfiguration hw id), exec_pure]

/-- Saving stores the configuration, or refuses it. -/
theorem exec_save (hw : w.Steady) (c : Configuration) :
    exec (save c) w =
      match stored c (w.store.configurations.get? c.id) w.time with
      | .ok c =>
        (w.withStore (({ w.store with configurations := w.store.configurations.set c.id c } :
          Store).addConfigurationId c.organization c.id), .ok c)
      | .error e => (w, .error e) := by
  have hget : exec (command (.getConfiguration c.id)) w =
      (w, .ok (w.store.configurations.get? c.id)) := exec_getConfiguration hw c.id
  unfold save
  rw [exec_bind_of_ok (exec_now w), exec_bind_of_ok hget]
  cases hstored : stored c (w.store.configurations.get? c.id) w.time with
  | error e => rfl
  | ok c' =>
    rw [exec_bind_of_ok (show exec (result (.ok c')) w = (w, .ok c') from rfl),
      exec_bind_of_ok (exec_setConfiguration hw c'),
      exec_bind_of_ok (exec_indexConfiguration (hw.withStore _) _ _), exec_pure]
    rfl

/-- Deactivating stores the configuration anew, if it is there to be seen. -/
theorem exec_deactivate (hw : w.Steady) (org id : String) :
    exec (deactivate org id) w =
      match (w.store.configurations.get? id).filter (isVisible org false) with
      | some c =>
        let c' := { c with active := false, updatedAt := some w.time }
        (w.withStore { w.store with configurations := w.store.configurations.set c.id c' }, .ok true)
      | none => (w, .ok false) := by
  rw [deactivate, exec_bind_of_ok (exec_find? hw org id false)]
  cases (w.store.configurations.get? id).filter (isVisible org false) with
  | none => rfl
  | some c =>
    simp only
    rw [exec_bind_of_ok (exec_now w), exec_bind_of_ok (exec_setConfiguration hw _), exec_pure]

end Configurations

/-! ### Jobs -/

namespace Jobs
variable {w : World}

/-- Store and index a job. -/
def added (s : Store) (j : Job) : Store :=
  { s with jobs := s.jobs.set j.id j }.indexJob j.organization ⟨j.id, j.createdAt⟩

theorem exec_create (hw : w.Steady) {j : Job} (hs : j.status.isInitial = true)
    (hj : w.store.jobs.get? j.id = none) :
    exec (create j) w = (w.withStore (added w.store j), .ok j) := by
  have hcreate : @exec Bool (command (.createJob j)) w =
      (w.withStore { w.store with jobs := w.store.jobs.set j.id j }, .ok true) := by
    refine exec_command_of_perform ?_
    rw [World.perform, World.attempt_of_steady hw (by decide), hj]
    rfl
  have hindex : exec (command (.indexJob j))
      (w.withStore { w.store with jobs := w.store.jobs.set j.id j }) =
      (w.withStore (added w.store j), .ok ()) :=
    exec_command_of_perform (by
      rw [World.perform, World.attempt_of_steady (hw.withStore _) (by decide)]
      rfl)
  rw [create, if_pos hs, exec_bind_of_ok hcreate, if_pos rfl, exec_bind_of_ok hindex, exec_pure]

theorem exec_create_of_exists (hw : w.Steady) {j k : Job} (hs : j.status.isInitial = true)
    (hk : w.store.jobs.get? j.id = some k) :
    exec (create j) w = (w, .error (.jobExists j.id)) := by
  have hcreate : @exec Bool (command (.createJob j)) w = (w, .ok false) := by
    refine exec_command_of_perform ?_
    rw [World.perform, World.attempt_of_steady hw (by decide), hk]
    rfl
  rw [create, if_pos hs, exec_bind_of_ok hcreate, if_neg (by decide)]
  rfl

theorem exec_updateJob (hw : w.Steady) (id : String)
    (update : Option Job → Except ServiceError Job) :
    @exec (Except ServiceError Job) (command (.updateJob id update)) w =
      match update (w.store.jobs.get? id) with
      | .ok j => (w.withStore { w.store with jobs := w.store.jobs.set id j }, .ok (.ok j))
      | .error e => (w, .ok (.error e)) := by
  refine (exec_command _ w).trans ?_
  rw [World.perform, hw.races]
  cases h : update (w.store.jobs.get? id) with
  | ok j =>
    rw [World.updateJob_of_steady hw h]
    rfl
  | error e =>
    rw [World.updateJob_of_refused hw h]
    rfl

/-- A job that may move moves. -/
theorem exec_move (hw : w.Steady) {id : String} {j : Job} {target : JobStatus}
    (hj : w.store.jobs.get? id = some j) (hmove : j.status.canMove target = true)
    (fields : List JobField) :
    exec (move id target fields) w =
      (w.withStore { w.store with jobs := w.store.jobs.set id (j.moved target w.time fields) },
        .ok (j.moved target w.time fields)) := by
  have hnext : next id target w.time fields (w.store.jobs.get? id) =
      .ok (j.moved target w.time fields) := by
    rw [hj, next, if_pos hmove]
  have hupdate := exec_updateJob hw id (next id target w.time fields)
  simp only [hnext] at hupdate
  rw [move, exec_bind_of_ok (exec_now w), exec_bind_of_ok hupdate]
  rfl

/-- A job that may not move stays what it is. -/
theorem exec_move_of_refused (hw : w.Steady) {id : String} {j : Job} {target : JobStatus}
    (hj : w.store.jobs.get? id = some j) (hmove : j.status.canMove target = false)
    (fields : List JobField) :
    exec (move id target fields) w = (w, .error (.moveRefused id (some j.status) target)) := by
  have hnext : next id target w.time fields (w.store.jobs.get? id) =
      .error (.moveRefused id (some j.status) target) := by
    rw [hj, next, if_neg (by simp [hmove])]
  have hupdate := exec_updateJob hw id (next id target w.time fields)
  simp only [hnext] at hupdate
  rw [move, exec_bind_of_ok (exec_now w), exec_bind_of_ok hupdate]
  rfl

end Jobs

end Sheetflow
