import Sheetflow.Proofs.Job.Record
import Sheetflow.Proofs.Service.Calls
import Sheetflow.Proofs.Service.Trail
import Sheetflow.Proofs.Time.Instant

/-!
# Records of jobs over sequences of calls

Services write to the records of jobs in two ways: they store a new job, and they move a stored one
with the fields of its stage.  `Service.KeepsRecords` says that a service gives no other command on
records, and holds of each of them; so whatever is called, and wherever on its way a call is looked
at, records are as they should be and go on where they were (`World.records_well_formed`).
-/

namespace Sheetflow

open Service

/-- A command that writes no record but a new one, or the next one of a stored job. -/
def Command.KeepsRecords (now : DateTime) : Command → Prop
  | .createJob j => ∃ s id configuration mode, j = Submission.newJob s id configuration mode now
  | .updateJob id update =>
    ∃ target fields, Submission.Stage target fields ∧ update = Jobs.next id target now fields
  | _ => True

/-- All that a service writes to records, at a time, are new ones and next ones of stored jobs. -/
abbrev Service.KeepsRecords {α : Type} (now : DateTime) (p : Service α) : Prop :=
  Gives now (Command.KeepsRecords now) p

/-! ### The services -/

section Services
variable {now : DateTime}

namespace Quota

theorem gives_giveBack {P : Command → Prop} (hdecrement : ∀ c, P (.decrement c))
    (hreset : ∀ c, P (.resetCounter c)) (c : Counter) : Gives now P (giveBack c) := by
  unfold giveBack
  refine .bind (gives_command (hdecrement c)) fun left => ?_
  split
  · exact .bind (gives_command (hreset c)) fun _ => gives_pure _
  · exact gives_pure _

/-- Admission counts up and down, and sets lifetimes of counts. -/
theorem gives_takeSlot {P : Command → Prop} (hincrement : ∀ c, P (.increment c))
    (hdecrement : ∀ c, P (.decrement c)) (s : Settings) (org : String) (month : Counter) (used : Int) :
    Gives now P (takeSlot s org month used) := by
  unfold takeSlot
  split
  · exact .bind (gives_command (hdecrement _)) fun _ => gives_pure _
  · refine .bind (gives_command (hincrement _)) fun active => ?_
    split
    · exact .bind (gives_command (hdecrement _)) fun _ =>
        .bind (gives_command (hdecrement _)) fun _ => gives_pure _
    · exact gives_pure _

theorem gives_reserve {P : Command → Prop} (hincrement : ∀ c, P (.increment c))
    (hdecrement : ∀ c, P (.decrement c)) (hlifetime : ∀ c seconds, P (.setLifetime c seconds))
    (s : Settings) (org : String) (size : Int) : Gives now P (reserve s org size) := by
  cases hsize : sizeRefusal? s size with
  | some reason =>
    rw [reserve, hsize]
    exact gives_pure _
  | none =>
    rw [reserve_of_size s org hsize]
    refine gives_now_bind (.bind (gives_command (hincrement _)) fun used => ?_)
    split
    · exact .bind (gives_command (hlifetime _ _)) fun _ =>
        gives_takeSlot hincrement hdecrement _ _ _ _
    · exact gives_takeSlot hincrement hdecrement _ _ _ _

theorem keepsRecords_reserve (s : Settings) (org : String) (size : Int) :
    KeepsRecords now (reserve s org size) :=
  gives_reserve (fun _ => trivial) (fun _ => trivial) (fun _ _ => trivial) s org size

end Quota

namespace Configurations

theorem keepsRecords_find? (org id : String) (inactive : Bool) :
    KeepsRecords now (find? org id inactive) := by
  unfold find?
  exact .bind (gives_command trivial) fun _ => gives_pure _

theorem keepsRecords_save (c : Configuration) : KeepsRecords now (save c) := by
  unfold save
  exact gives_now_bind <| .bind (gives_command trivial) fun _ => .bind (gives_result _) fun _ =>
    .bind (gives_command trivial) fun _ => .bind (gives_command trivial) fun _ => gives_pure _

theorem keepsRecords_deactivate (org id : String) : KeepsRecords now (deactivate org id) := by
  unfold deactivate
  refine .bind (keepsRecords_find? org id false) fun found => ?_
  cases found with
  | none => exact gives_pure _
  | some c => exact gives_now_bind (.bind (gives_command trivial) fun _ => gives_pure _)

end Configurations

namespace Jobs

theorem keepsRecords_create {j : Job} (hj : (Command.createJob j).KeepsRecords now) :
    KeepsRecords now (create j) := by
  unfold create
  split
  · refine .bind (gives_command hj) fun created => ?_
    split
    · exact .bind (gives_command trivial) fun _ => gives_pure _
    · exact gives_throw _
  · exact gives_throw _

theorem keepsRecords_find? (id : String) (org : Option String) : KeepsRecords now (find? id org) := by
  unfold find?
  exact .bind (gives_command trivial) fun _ => gives_pure _

theorem keepsRecords_move {target : JobStatus} {fields : List JobField}
    (h : Submission.Stage target fields) (id : String) : KeepsRecords now (move id target fields) := by
  unfold move
  exact gives_now_bind (.bind (gives_command ⟨target, fields, h, rfl⟩) fun _ => gives_result _)

end Jobs

namespace Outputs

theorem keepsRecords_save [Host] (org job name : String) (bs : Bytes) :
    KeepsRecords now (save org job name bs) := by
  unfold save
  refine .bind (gives_result _) fun p => .bind (gives_command trivial) fun written => ?_
  cases written with
  | ok _ => exact gives_pure _
  | error e => exact gives_throw _

end Outputs

namespace Submission

/-- Giving back counts down, and sets counts. -/
theorem gives_giveBack {P : Command → Prop} (hdecrement : ∀ c, P (.decrement c))
    (hreset : ∀ c, P (.resetCounter c)) (org : String) (completed : Bool) :
    Gives now P (giveBack org completed) := by
  have hback (c : Counter) : Gives now P (Quota.giveBack c) :=
    Quota.gives_giveBack hdecrement hreset c
  unfold giveBack Quota.release Quota.refund
  refine .bind (.attempt (.bind (.bind (hback _) fun _ => gives_pure _) fun _ => ?_))
    fun _ => gives_pure _
  split
  · exact .bind (gives_now_bind (hback _)) fun _ => gives_pure _
  · exact gives_pure _

theorem keepsRecords_giveBack (org : String) (completed : Bool) :
    KeepsRecords now (giveBack org completed) :=
  gives_giveBack (fun _ => trivial) (fun _ => trivial) org completed

theorem keepsRecords_markFailed (j : Job) (message : String) (log : Option Value) :
    KeepsRecords now (markFailed j message log) := by
  unfold markFailed
  refine .bind (.attempt (Jobs.keepsRecords_move (.ended (.failed message log)) _)) fun r => ?_
  cases r with
  | ok failed => exact gives_pure _
  | error e =>
    dsimp only
    split
    · exact .bind (Jobs.keepsRecords_find? _ _) fun _ => gives_pure _
    · exact gives_now_bind (gives_pure _)

theorem keepsRecords_deliver [Host] (j : Job) (c : Configuration) (fileName : String)
    (r : RunResult) :
    KeepsRecords now (deliver j c fileName r) := by
  unfold deliver
  exact .bind (Outputs.keepsRecords_save _ _ _ _) fun ref =>
    .bind (Jobs.keepsRecords_move (.ended (.completed ref _)) _) fun _ => gives_pure _

theorem keepsRecords_finish [Host] (j : Job) (c : Configuration) (fileName : String)
    (r : RunResult) :
    KeepsRecords now (finish j c fileName r) := by
  unfold finish
  split
  · exact .bind (keepsRecords_markFailed _ _ _) fun _ => gives_pure _
  · exact .bind (keepsRecords_deliver _ _ _ _) fun _ => gives_pure _

theorem keepsRecords_carryOut [Host] (j : Job) (c : Configuration) (file : File)
    (fileName : String) :
    KeepsRecords now (carryOut j c file fileName) := by
  unfold carryOut
  split
  · exact .bind (keepsRecords_markFailed _ _ _) fun _ => gives_pure _
  · refine .bind (.attempt (keepsRecords_finish _ _ _ _)) fun r => ?_
    cases r with
    | ok done => exact gives_pure _
    | error e => exact .bind (keepsRecords_markFailed _ _ _) fun _ => gives_pure _

theorem keepsRecords_execute [Host] (j : Job) (c : Configuration) (file : File)
    (fileName : String) :
    KeepsRecords now (execute j c file fileName) := by
  unfold execute
  refine .bind (.attempt (keepsRecords_carryOut _ _ _ _)) fun r => ?_
  cases r with
  | ok done => exact .bind (keepsRecords_giveBack _ _) fun _ => gives_pure _
  | error e => exact .bind (keepsRecords_giveBack _ _) fun _ => gives_throw _

theorem keepsRecords_publish (s : Submission) (j : Job) : KeepsRecords now (publish s j) := by
  unfold publish
  refine .bind (.attempt (gives_command trivial)) fun r => ?_
  cases r with
  | ok _ => exact gives_pure _
  | error e =>
    exact .bind (keepsRecords_markFailed _ _ _) fun _ =>
      .bind (keepsRecords_giveBack _ _) fun _ => gives_pure _

theorem keepsRecords_configurationFor (org id : String) :
    KeepsRecords now (configurationFor org id) := by
  unfold configurationFor
  refine .bind (Configurations.keepsRecords_find? org id false) fun found => ?_
  cases found with
  | none => exact gives_throw _
  | some c => exact gives_pure _

theorem keepsRecords_createJob (s : Submission) {j : Job}
    (hj : (Command.createJob j).KeepsRecords now) : KeepsRecords now (createJob s j) := by
  unfold createJob
  refine .bind (.attempt (Jobs.keepsRecords_create hj)) fun r => ?_
  cases r with
  | ok j => exact gives_pure _
  | error e => exact .bind (keepsRecords_giveBack _ _) fun _ => gives_throw _

theorem keepsRecords_start [Host] (s : Submission) (c : Configuration) (mode : Mode) :
    KeepsRecords now (start s c mode) := by
  unfold start proceed
  refine gives_now_bind (.bind (gives_freshId _) fun id =>
    .bind (keepsRecords_createJob s ⟨s, id, c.id, mode, rfl⟩) fun j => ?_)
  cases mode with
  | queued => exact .bind (keepsRecords_publish s j) fun _ => gives_pure _
  | sync => exact .bind (keepsRecords_execute j c s.file s.fileName) fun _ => gives_pure _

theorem keepsRecords_submit [Host] (settings : Settings) (s : Submission) :
    KeepsRecords now (submit settings s) := by
  rw [submit_eq]
  refine .bind (keepsRecords_configurationFor _ _) fun c => ?_
  split
  · refine .bind (Quota.keepsRecords_reserve _ _ _) fun decision => ?_
    cases decision with
    | denied reason counts => exact gives_throw _
    | allowed counts => exact keepsRecords_start s c _
  · exact gives_throw _

end Submission

namespace Task

theorem keepsRecords_prepare (t : Task) : KeepsRecords now t.prepare := by
  unfold prepare
  exact .bind (Submission.keepsRecords_configurationFor _ _) fun _ =>
    .bind (gives_result _) fun _ => gives_pure _

theorem keepsRecords_process [Host] (t : Task) : KeepsRecords now t.process := by
  unfold process
  refine .bind (.attempt (Jobs.keepsRecords_move .taken _)) fun r => ?_
  cases r with
  | error e =>
    dsimp only
    split
    · exact gives_pure _
    · exact gives_throw _
  | ok j =>
    refine .bind (.attempt (keepsRecords_prepare t)) fun r => ?_
    cases r with
    | ok p => exact .bind (Submission.keepsRecords_execute _ _ _ _) fun _ => gives_pure _
    | error e =>
      exact .bind (Submission.keepsRecords_markFailed _ _ _) fun _ =>
        .bind (Submission.keepsRecords_giveBack _ _) fun _ => gives_pure _

theorem keepsRecords_processPayload [Host] (payload : Value) :
    KeepsRecords now (processPayload payload) := by
  unfold processPayload
  exact .bind (gives_result _) fun t => keepsRecords_process t

end Task

end Services

/-! ### What a command does to records -/

/-- What happens to the records of jobs at a time: nothing, one is new, or one is moved. -/
inductive Jobs.Change (now : DateTime) (jobs : Table String Job) : Table String Job → Prop
  | none : Change now jobs jobs
  | new (j : Job) (h : j.Recorded now.toInstant) (hs : j.status.isInitial = true)
    (hid : jobs.get? j.id = .none) : Change now jobs (jobs.set j.id j)
  | moved (id : String) (j : Job) (target : JobStatus) (fields : List JobField)
    (hj : jobs.get? id = some j) (hmove : j.status.canMove target = true)
    (hstage : Submission.Stage target fields) :
    Change now jobs (jobs.set id (j.moved target now fields))

namespace World

/-- What a step leaves: the clock, nobody else's writes, and records that changed as they may. -/
structure Kept (w w' : World) : Prop where
  races : w'.races = w.races
  clock : w'.clock = w.clock
  jobs : Jobs.Change w.time w.store.jobs w'.store.jobs

theorem Kept.rfl' (w : World) : w.Kept w := ⟨rfl, rfl, .none⟩

/-- A command that writes no records keeps them, if the operation behind it does. -/
theorem kept_attempt {ρ : Type} (w : World) (op : Operation) {act : World → World × Except Fault ρ}
    (hact : ∀ v, w.Kept v → v.store = w.store → w.Kept (act v).1) : w.Kept (w.attempt op act).1 :=
  attempt_induction w op (fun _ _ => ⟨rfl, rfl, .none⟩)
    fun _ _ => hact _ ⟨rfl, rfl, .none⟩ rfl

theorem Kept.withStore {w v : World} (h : w.Kept v) {s : Store} (hs : s.jobs = v.store.jobs) :
    w.Kept (v.withStore s) :=
  ⟨h.races, h.clock, by rw [withStore_store, hs]; exact h.jobs⟩

/-- **A command of a service keeps records** if nobody else writes to jobs. -/
theorem kept_perform {w : World} (hw : w.races = []) {c : Command} (hc : c.KeepsRecords w.time) :
    w.Kept (w.perform c).1 := by
  cases c with
  | getConfiguration id => exact kept_attempt w _ fun v h _ => h
  | setConfiguration c => exact kept_attempt w _ fun v h _ => h.withStore rfl
  | getConfigurations ids => exact kept_attempt w _ fun v h _ => h
  | indexConfiguration org id =>
    exact kept_attempt w _ fun v h _ => h.withStore (Store.jobs_addConfigurationId _ _ _)
  | configurationIds org => exact kept_attempt w _ fun v h _ => h
  | createJob j =>
    obtain ⟨s, id, configuration, mode, rfl⟩ := hc
    refine kept_attempt w _ fun v h hv => ?_
    cases hj : v.store.jobs.get? (s.newJob id configuration mode w.time).id with
    | some k =>
      rw [if_pos (by rw [Option.isSome_some])]
      exact h
    | none =>
      rw [if_neg (by rw [Option.isSome_none]; exact Bool.false_ne_true)]
      refine ⟨h.races, h.clock, ?_⟩
      show Jobs.Change w.time w.store.jobs (v.store.jobs.set _ _)
      rw [hv] at hj ⊢
      exact .new _ (Job.recorded_newJob s id configuration mode w.time)
        (by cases mode <;> rfl) hj
  | getJob id => exact kept_attempt w _ fun v h _ => h
  | getJobs ids => exact kept_attempt w _ fun v h _ => h
  | indexJob j => exact kept_attempt w _ fun v h _ => h.withStore rfl
  | newestJobs org stop => exact kept_attempt w _ fun v h _ => h
  | updateJob id update =>
    obtain ⟨target, fields, hstage, rfl⟩ := hc
    rw [perform, hw, updateJob]
    refine attempt_induction w _ (fun _ _ => ⟨rfl, rfl, .none⟩) fun _ _ => ?_
    refine attempt_induction _ _ (fun _ _ => ⟨rfl, rfl, .none⟩) fun _ _ => ?_
    cases hj : w.store.jobs.get? id with
    | none => exact ⟨rfl, rfl, .none⟩
    | some j =>
      by_cases hmove : j.status.canMove target = true
      · simp only [Jobs.next, hmove, if_true]
        refine attempt_induction _ _ (fun _ _ => ⟨rfl, rfl, .none⟩) fun _ _ => ?_
        exact ⟨rfl, rfl, .moved id j target fields hj hmove hstage⟩
      · simp only [Jobs.next, hmove]
        exact ⟨rfl, rfl, .none⟩
  | increment k => exact kept_attempt w _ fun v h _ => h.withStore rfl
  | decrement k => exact kept_attempt w _ fun v h _ => h.withStore rfl
  | resetCounter k => exact kept_attempt w _ fun v h _ => h.withStore rfl
  | readCounter k => exact kept_attempt w _ fun v h _ => h
  | setLifetime k seconds =>
    exact kept_attempt w _ fun v h _ => h.withStore (Store.SameRecords.setLifetime _ _ _).jobs
  | ping =>
    rw [perform]
    split
    · exact kept_attempt w _ fun v h _ => h
    · exact .rfl' w
  | enqueue t => exact kept_attempt w _ fun v h _ => ⟨h.races, h.clock, h.jobs⟩
  | queueLength => exact kept_attempt w _ fun v h _ => h
  | writeFile p bs =>
    rw [perform]
    rcases w.files.write p bs with ⟨files, r⟩
    exact ⟨rfl, rfl, .none⟩
  | readFile p => exact .rfl' w

end World

/-- How a record may come after what was stored under its id before: it is a new one that waits or is
under way, or the one that was there, or the next one of that. -/
def Job.Follows (k : Job) : Option Job → Prop
  | none => k.status = .pending ∨ k.status = .processing
  | some j =>
    k = j ∨ (j.status = .pending ∧ (k.status = .processing ∨ k.status = .failed)) ∨
      (j.status = .processing ∧ (k.status = .completed ∨ k.status = .failed))

namespace Jobs.Change
variable {now : DateTime} {jobs jobs' : Table String Job} {id : String} {j k : Job}

theorem recorded (h : Change now jobs jobs')
    (hjobs : ∀ id j, jobs.get? id = some j → j.id = id ∧ j.Recorded now.toInstant) :
    ∀ id j, jobs'.get? id = some j → j.id = id ∧ j.Recorded now.toInstant := by
  intro id k hk
  cases h with
  | none => exact hjobs id k hk
  | new j hj hs hid =>
    by_cases h : id = j.id
    · rw [h, Table.get?_set_self] at hk
      rw [← Option.some.inj hk]
      exact ⟨h.symm, hj⟩
    · rw [Table.get?_set_ne _ _ h] at hk
      exact hjobs id k hk
  | moved i j target fields hj hmove hstage =>
    by_cases h : id = i
    · rw [h, Table.get?_set_self] at hk
      obtain ⟨hid, hrecorded⟩ := hjobs i j hj
      rw [← Option.some.inj hk, h]
      exact ⟨(hstage.becomes hmove now).id.trans hid, hrecorded.moved hstage hmove⟩
    · rw [Table.get?_set_ne _ _ h] at hk
      exact hjobs id k hk

/-- A stored job goes on. -/
theorem becomes (h : Change now jobs jobs') (hj : jobs.get? id = some j) :
    ∃ k, jobs'.get? id = some k ∧ j.Becomes k := by
  cases h with
  | none => exact ⟨j, hj, .refl j⟩
  | new i hi hs hid =>
    have h : id ≠ i.id := fun h => by
      rw [h, hid] at hj
      cases hj
    exact ⟨j, (Table.get?_set_ne _ _ h).trans hj, .refl j⟩
  | moved i l target fields hl hmove hstage =>
    by_cases h : id = i
    · rw [h] at hj ⊢
      obtain rfl := Option.some.inj (hl.symm.trans hj)
      exact ⟨_, Table.get?_set_self _ _ _, hstage.becomes hmove now⟩
    · exact ⟨j, (Table.get?_set_ne _ _ h).trans hj, .refl j⟩

/-- What is stored afterwards follows what was stored before. -/
theorem follows (h : Change now jobs jobs') (hk : jobs'.get? id = some k) :
    k.Follows (jobs.get? id) := by
  cases h with
  | none =>
    rw [hk]
    exact .inl rfl
  | new i hi hs hid =>
    by_cases h : id = i.id
    · rw [h, Table.get?_set_self] at hk
      rw [h, hid, ← Option.some.inj hk]
      show i.status = .pending ∨ i.status = .processing
      cases hstatus : i.status <;> rw [hstatus] at hs
      · exact .inl rfl
      · exact .inr rfl
      all_goals cases hs
    · rw [Table.get?_set_ne _ _ h] at hk
      rw [hk]
      exact .inl rfl
  | moved i j target fields hj hmove hstage =>
    by_cases h : id = i
    · rw [h, Table.get?_set_self] at hk
      rw [h, hj, ← Option.some.inj hk]
      refine .inr ?_
      rw [hstage.status_moved]
      exact (JobStatus.canMove_iff _ _).mp hmove
    · rw [Table.get?_set_ne _ _ h] at hk
      rw [hk]
      exact .inl rfl

end Jobs.Change

/-! ### Histories -/

namespace World
variable {w w' : World}

/-- The worlds that a call goes through. -/
def trail [Host] (w : World) : Call → List World
  | .submit s => (Submission.submit w.settings s).run.trail w
  | .deliver n =>
    match w.queue[n]? with
    | some payload => (Task.processPayload payload).run.trail w
    | none => []
  | .save c => (Configurations.save c).run.trail w
  | .deactivate org id => (Configurations.deactivate org id).run.trail w
  | a => [w.call a]

/-- The worlds that calls go through, from the one before the first call on. -/
def history [Host] (w : World) : List Call → List World
  | [] => [w]
  | a :: cs => w :: (w.trail a ++ (w.call a).history cs)

theorem getLast?_trail [Host] (w : World) (a : Call) :
    (w :: w.trail a).getLast? = some (w.call a) := by
  cases a with
  | submit s => exact Program.getLast?_trail _ w
  | deliver n =>
    rw [trail, call]
    cases w.queue[n]? with
    | some payload => exact Program.getLast?_trail _ w
    | none => rfl
  | save c => exact Program.getLast?_trail _ w
  | deactivate org id => exact Program.getLast?_trail _ w
  | advance micros => rfl
  | failPublishing after times fault => rfl
  | lapse org since => rfl

theorem head?_history [Host] (w : World) (cs : List Call) : (w.history cs).head? = some w := by
  cases cs <;> rfl

/-- The world after every call is in the history. -/
theorem calls_take_mem_history [Host] (w : World) (cs : List Call) (n : Nat) :
    w.calls (cs.take n) ∈ w.history cs := by
  induction cs generalizing w n with
  | nil =>
    rw [List.take_nil]
    exact List.mem_singleton_self w
  | cons a cs ih =>
    cases n with
    | zero => exact List.mem_cons_self
    | succ n => exact List.mem_cons_of_mem _ (List.mem_append_right _ (ih (w.call a) n))

/-- What the worlds of every call keep is kept by the worlds of a history. -/
theorem history_induction [Host] {I : World → Prop} {R : World → World → Prop} (hrefl : ∀ w, R w w)
    (hcall : ∀ w a, I w → (w :: w.trail a).IsChain R ∧ ∀ v ∈ w.trail a, I v)
    (cs : List Call) (hw : I w) : (w.history cs).IsChain R ∧ ∀ v ∈ w.history cs, I v := by
  induction cs generalizing w with
  | nil => exact ⟨.singleton w, List.forall_mem_singleton.mpr hw⟩
  | cons a cs ih =>
    obtain ⟨hchain, hall⟩ := hcall w a hw
    have hcalled : I (w.call a) :=
      List.forall_mem_cons.mpr ⟨hw, hall⟩ _ (List.mem_of_getLast? (getLast?_trail w a))
    obtain ⟨hchain', hall'⟩ := ih hcalled
    refine ⟨hchain.append hchain' fun x hx y hy => ?_, ?_⟩
    · rw [getLast?_trail] at hx
      rw [head?_history] at hy
      rw [← Option.some.inj hx, ← Option.some.inj hy]
      exact hrefl _
    · exact List.forall_mem_cons.mpr ⟨hw, List.forall_mem_append.mpr ⟨hall, hall'⟩⟩

/-- Nobody else writes to jobs, and their records are as they should be. -/
structure Recorded (w : World) : Prop where
  races : w.races = []
  started : DateTime.first ≤ w.clock
  records : ∀ id j, w.store.jobs.get? id = some j → j.id = id ∧ j.Recorded w.clock

/-- Every stored job goes on. -/
def JobsGoOn (w w' : World) : Prop :=
  ∀ id j, w.store.jobs.get? id = some j → ∃ k, w'.store.jobs.get? id = some k ∧ j.Becomes k

instance : Trans JobsGoOn JobsGoOn JobsGoOn where
  trans h g id j hj := by
    obtain ⟨k, hk, hjk⟩ := h id j hj
    obtain ⟨l, hl, hkl⟩ := g id k hk
    exact ⟨l, hl, hjk.trans hkl⟩

/-- Records go on from one world to the next, which is one command later. -/
structure GoesOn (w w' : World) : Prop where
  becomes : w.JobsGoOn w'
  follows : ∀ id k, w'.store.jobs.get? id = some k → k.Follows (w.store.jobs.get? id)

theorem goesOn_of_change {now : DateTime} (h : Jobs.Change now w.store.jobs w'.store.jobs) :
    w.GoesOn w' := ⟨fun _ _ hj => h.becomes hj, fun _ _ hk => h.follows hk⟩

theorem goesOn_of_jobs (h : w'.store.jobs = w.store.jobs) : w.GoesOn w' := by
  have hnone : Jobs.Change w.time w.store.jobs w'.store.jobs := h ▸ .none
  exact goesOn_of_change hnone

/-- Records stay as they should be when the clock moves on. -/
theorem Recorded.of_jobs (h : w.Recorded) (hraces : w'.races = w.races)
    (hclock : w.clock ≤ w'.clock) (hjobs : w'.store.jobs = w.store.jobs) : w'.Recorded where
  races := hraces.trans h.races
  started := Int.le_trans h.started hclock
  records id j hj := by
    rw [hjobs] at hj
    obtain ⟨hid, hrecorded⟩ := h.records id j hj
    exact ⟨hid, hrecorded.later hclock⟩

theorem Recorded.kept (h : w.Recorded) (hkept : w.Kept w') : w'.Recorded where
  races := hkept.races.trans h.races
  started := hkept.clock.symm ▸ h.started
  records := by
    have htime : w.time.toInstant = w.clock := DateTime.toInstant_ofInstant h.started
    have hrecorded := hkept.jobs.recorded (htime.symm ▸ h.records)
    rw [htime] at hrecorded
    rw [hkept.clock]
    exact hrecorded

/-- **A service keeps records on its way.** -/
theorem isChain_trail_of_keepsRecords {α : Type} {p : Service α} (hw : w.Recorded)
    (hp : p.KeepsRecords w.time) :
    (w :: p.run.trail w).IsChain GoesOn ∧ ∀ v ∈ p.run.trail w, v.Recorded := by
  obtain ⟨hchain, hall⟩ := Program.isChain_trail (I := fun v => v.Recorded ∧ v.time = w.time)
    (R := GoesOn) (fun v hv => hv.2)
    (fun v hv => ⟨⟨hv.1.of_jobs rfl (Int.le_refl _) rfl, hv.2⟩, goesOn_of_jobs rfl⟩)
    (fun v c hv hc => by
      have hkept := kept_perform hv.1.races (hv.2 ▸ hc)
      exact ⟨⟨hv.1.kept hkept, (congrArg DateTime.ofInstant hkept.clock).trans hv.2⟩,
        goesOn_of_change hkept.jobs⟩)
    hp.commands ⟨hw, rfl⟩
  exact ⟨hchain, fun v hv => (hall v hv).1⟩

theorem isChain_trail [Host] (hw : w.Recorded) (a : Call) :
    (w :: w.trail a).IsChain GoesOn ∧ ∀ v ∈ w.trail a, v.Recorded := by
  have hone {v : World} (hv : v.Recorded) (hgoes : w.GoesOn v) :
      [w, v].IsChain GoesOn ∧ ∀ u ∈ [v], u.Recorded :=
    ⟨.cons_cons hgoes (.singleton v), List.forall_mem_singleton.mpr hv⟩
  cases a with
  | submit s => exact isChain_trail_of_keepsRecords hw (Submission.keepsRecords_submit _ s)
  | deliver n =>
    rw [trail]
    split
    · exact isChain_trail_of_keepsRecords hw (Task.keepsRecords_processPayload _)
    · exact ⟨.singleton w, fun v hv => nomatch hv⟩
  | save c => exact isChain_trail_of_keepsRecords hw (Configurations.keepsRecords_save c)
  | deactivate org id =>
    exact isChain_trail_of_keepsRecords hw (Configurations.keepsRecords_deactivate org id)
  | advance micros =>
    exact hone (hw.of_jobs rfl (Int.le_add_of_nonneg_right (Int.natCast_nonneg _)) rfl)
      (goesOn_of_jobs rfl)
  | failPublishing after times fault =>
    exact hone (hw.of_jobs rfl (Int.le_refl _) rfl) (goesOn_of_jobs rfl)
  | lapse org since =>
    refine hone ?_ ?_ <;> rw [call] <;> split
    · exact hw.of_jobs rfl (Int.le_refl _) rfl
    · exact hw
    · exact goesOn_of_jobs rfl
    · exact goesOn_of_jobs rfl

theorem recorded_empty (settings : Settings) {start : Instant} (h : DateTime.first ≤ start) :
    (empty settings start).Recorded :=
  ⟨rfl, h, fun _ _ hj => nomatch hj⟩

/-- **Records of jobs are well formed** whatever is called, after every call and at every command on the
way.  What a record holds is what its status says, and its times are in order; from one command to the
next a status changes by one allowed move; and what a job was created with, the time of its start and
all of a job that has ended stay for good. -/
theorem records_well_formed [Host] (settings : Settings) {start : Instant}
    (hstart : DateTime.first ≤ start)
    (cs : List Call) :
    let history := (empty settings start).history cs
    (∀ n, (empty settings start).calls (cs.take n) ∈ history) ∧
    (∀ w ∈ history, ∀ id j, w.store.jobs.get? id = some j → j.id = id ∧ j.Fits ∧ j.InOrder) ∧
    (history.IsChain fun w w' =>
      ∀ id k, w'.store.jobs.get? id = some k → k.Follows (w.store.jobs.get? id)) ∧
    history.Pairwise fun w w' =>
      ∀ id j, w.store.jobs.get? id = some j →
        ∃ k, w'.store.jobs.get? id = some k ∧ j.Becomes k := by
  intro history
  have hrefl (w : World) : w.GoesOn w := goesOn_of_jobs rfl
  obtain ⟨hchain, hall⟩ := history_induction hrefl (fun _ a hw => isChain_trail hw a) cs
    (recorded_empty settings hstart)
  refine ⟨calls_take_mem_history _ cs, fun w hw id j hj => ?_,
    hchain.imp fun _ _ h => h.follows, ?_⟩
  · obtain ⟨hid, hrecorded⟩ := (hall w hw).records id j hj
    exact ⟨hid, hrecorded.fits, hrecorded.inOrder⟩
  · have hgoes : history.IsChain JobsGoOn := hchain.imp fun _ _ h => h.becomes
    exact hgoes.pairwise

section
attribute [local instance] Host.bare

/-- A job that is queued and delivered waits, is under way and is completed, in this order, and its
record is well formed all the time. -/
theorem records_well_formed_delivered :
    let history := (empty {} 0).history [.save .copying, .submit .smallTable, .deliver 0]
    DateTime.first ≤ 0 ∧
      (history.filterMap fun w => (w.store.jobs.get? (IdKind.job.id 1)).map Job.status).eraseReps =
        [.pending, .processing, .completed] ∧
      ∀ w ∈ history, ∀ j, w.store.jobs.get? (IdKind.job.id 1) = some j → j.Fits ∧ j.InOrder := by
  intro history
  have hstart : DateTime.first ≤ 0 := by decide
  obtain ⟨-, hrecords, -, -⟩ := records_well_formed {} hstart
    [.save .copying, .submit .smallTable, .deliver 0]
  exact ⟨hstart, by decide +kernel, fun w hw j hj => (hrecords w hw _ j hj).2⟩

end

end World

end Sheetflow
