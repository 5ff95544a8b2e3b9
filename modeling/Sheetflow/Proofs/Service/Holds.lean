import Sheetflow.Proofs.Job.Record
import Sheetflow.Proofs.Service.Artifacts
import Sheetflow.Proofs.Service.Delivery
import Sheetflow.Web.Endpoint

/-!
# What programs have made sure of

A program that works for a job has made sure of something before it goes on: that the job is stored,
that it has taken the job, that it has written its output (`Hold`).  A command is fair if the program
has made sure of what it needs (`Command.Fair`): an output is written only for a job that was taken, and
a job is completed only when its output was written.

Nothing is said of the world here, so it does not matter what others do between two commands.
`Service.Fair` has a rule for each way services are put together, and each service is gone through once.
-/

namespace Sheetflow

open Service

variable [Host]

/-- What a job makes: the output of a run over a file of its name, under its own reference. -/
inductive Job.Makes (j : Job) (ref : String) (bs : Bytes) : Prop
  | of (c : Configuration) (file : File) (name : String) (r : RunResult)
    (named : j.fileName = some name) (transform : c.transform file name = .ok r)
    (finished : r.aborted = false)
    (ref : ref = Outputs.refOf j.organization j.id (Submission.outputName c name))
    (bytes : bs = (c.outputBytes r.matrix).bytes)

/-- What a program has made sure of. -/
inductive Hold where
  | nothing
  /-- This job is stored. -/
  | stored (j : Job)
  /-- This job is under way, and it is this program that has taken it. -/
  | taken (j : Job)
  /-- So it is, and its output stands at the path. -/
  | written (j : Job) (p : Path) (bs : Bytes)

namespace Hold

/-- What a program has made sure of that has put a job there. -/
def ofJob (j : Job) : Hold := if j.status = .processing then .taken j else .stored j

/-- What a program has made sure of when it got a reply. -/
def after (h : Hold) : (c : Command) → Except Fault c.Reply → Hold
  | .createJob j, .ok true => ofJob j
  | .updateJob _ _, .ok (.ok j) => if j.status = .processing then .taken j else .nothing
  | .writeFile p bs, .ok (.ok _) =>
    match h with
    | .taken j => .written j p bs
    | h => h
  | _, _ => h

/-- Replies that there may be: a job that was replaced is the next one of a job that was stored. -/
def Expects (h : Hold) : (c : Command) → Except Fault c.Reply → Prop
  | .updateJob id update, .ok (.ok k) =>
    ∃ j, update (some j) = .ok k ∧ ∀ j₀, h = .stored j₀ → j₀.id = id → j.fileName = j₀.fileName
  | _, _ => True

end Hold

/-- A command that changes neither jobs nor outputs nor the queue. -/
def Command.isQuiet : Command → Bool
  | .createJob _ => false
  | .updateJob _ _ => false
  | .enqueue _ => false
  | .writeFile _ _ => false
  | _ => true

/-- A command that a program may give which has made sure of something. -/
inductive Command.Fair : Hold → Command → Prop
  | create (h : Hold) (s : Submission) (n : Nat) (configuration : String) (mode : Mode)
    (now : DateTime) : Fair h (.createJob (s.newJob (IdKind.job.id n) configuration mode now))
  | take (h : Hold) (id : String) (now : DateTime) :
    Fair h (.updateJob id (Jobs.next id .processing now []))
  | fail (h : Hold) (id message : String) (now : DateTime) (log : Option Value) :
    Fair h (.updateJob id (Jobs.next id .failed now (Submission.failureFields message log)))
  | complete {j : Job} {p : Path} {bs : Bytes} {ref : String} (now : DateTime) (log : Value)
    (makes : j.Makes ref bs) (path : Outputs.path ref = .ok p) :
    Fair (.written j p bs)
      (.updateJob j.id (Jobs.next j.id .completed now [.outputRef (some ref), .log (some log)]))
  | publish {j : Job} {t : Task} (job : t.job = j.id) (named : j.fileName = some t.fileName) :
    Fair (.stored j) (.enqueue t)
  | write {j : Job} {p : Path} {bs : Bytes} {ref : String} (makes : j.Makes ref bs)
    (path : Outputs.path ref = .ok p) : Fair (.taken j) (.writeFile p bs)
  | quiet (h : Hold) {c : Command} (hc : c.isQuiet = true) : Fair h c

/-! ### Fair programs -/

namespace Program
variable {α β : Type} {Q : α → Hold → Prop} {R : β → Hold → Prop}

/-- Every command of a program is fair that has made sure of something before, and in the end it has
made sure of what is said. -/
def Fair (Q : α → Hold → Prop) : Hold → Program α → Prop
  | h, .done a => Q a h
  | h, .now next => ∀ t, (next t).Fair Q h
  | h, .freshId kind next => ∀ n, (next (kind.id n)).Fair Q h
  | h, .call c next => c.Fair h ∧ ∀ r, h.Expects c r → (next r).Fair Q (h.after c r)

theorem Fair.imp {h : Hold} {Q' : α → Hold → Prop} {p : Program α} (hp : p.Fair Q h)
    (hQ : ∀ a h', Q a h' → Q' a h') : p.Fair Q' h := by
  induction p generalizing h with
  | done a => exact hQ a h hp
  | now next ih => exact fun t => ih t (hp t)
  | freshId kind next ih => exact fun n => ih _ (hp n)
  | call c next ih => exact ⟨hp.1, fun r hr => ih r (hp.2 r hr)⟩

theorem Fair.bind {h : Hold} {p : Program α} (hp : p.Fair Q h) {f : α → Program β}
    (hf : ∀ a h', Q a h' → (f a).Fair R h') : (p.bind f).Fair R h := by
  induction p generalizing h with
  | done a => exact hf a h hp
  | now next ih => exact fun t => ih t (hp t)
  | freshId kind next ih => exact fun n => ih _ (hp n)
  | call c next ih => exact ⟨hp.1, fun r hr => ih r (hp.2 r hr)⟩

end Program

namespace Service
variable {α β : Type} {h : Hold} {Q : α → Hold → Prop} {R : β → Hold → Prop}

/-- A service gives fair commands, and what it returns is as said. -/
structure Fair (h : Hold) (p : Service α) (Q : α → Hold → Prop) : Prop where
  program : Program.Fair (fun r h' => ∀ a, r = .ok a → Q a h') h p.run

theorem fair_pure {a : α} (hQ : Q a h) : Fair h (pure a) Q :=
  ⟨fun _ hb => Except.ok.inj hb ▸ hQ⟩

theorem fair_throw (e : ServiceError) : Fair h (throw e : Service α) Q := ⟨fun _ hb => nomatch hb⟩

theorem fair_result (r : Except ServiceError α) :
    Fair h (result r) fun a h' => r = .ok a ∧ h' = h := ⟨fun _ hb => ⟨hb, rfl⟩⟩

theorem fair_freshId (kind : IdKind) :
    Fair h (freshId kind) fun id h' => h' = h ∧ ∃ n, id = kind.id n :=
  ⟨fun n _ hb => ⟨rfl, n, (Except.ok.inj hb).symm⟩⟩

theorem fair_command {c : Command} (hc : c.Fair h) :
    Fair h (command c) fun r h' => h.Expects c (.ok r) ∧ h' = h.after c (.ok r) := by
  refine ⟨⟨hc, fun r hr => ?_⟩⟩
  intro a ha
  cases r with
  | error e => cases ha
  | ok b =>
    obtain rfl : b = a := Except.ok.inj ha
    exact ⟨hr, rfl⟩

theorem Fair.imp {p : Service α} {Q' : α → Hold → Prop} (hp : Fair h p Q)
    (hQ : ∀ a h', Q a h' → Q' a h') : Fair h p Q' :=
  ⟨Program.Fair.imp hp.program fun _ h' hr a ha => hQ a h' (hr a ha)⟩

theorem Fair.bind {p : Service α} (hp : Fair h p Q) {f : α → Service β}
    (hf : ∀ a h', Q a h' → Fair h' (f a) R) : Fair h (p >>= f) R :=
  ⟨Program.Fair.bind hp.program fun r h' hr =>
    match r, hr with
    | .ok a, hr => (hf a h' (hr a rfl)).program
    | .error _, _ => fun _ hb => nomatch hb⟩

theorem Fair.attempt_bind {p : Service α} (hp : Fair h p Q) {f : Except ServiceError α → Service β}
    (hok : ∀ a h', Q a h' → Fair h' (f (.ok a)) R)
    (herror : ∀ e h', Fair h' (f (.error e)) R) : Fair h (attempt p >>= f) R := by
  have hattempt : Fair h (attempt p) fun r h' => ∀ a, r = .ok a → Q a h' :=
    ⟨Program.Fair.bind hp.program fun r h' hr => fun _ hb => Except.ok.inj hb ▸ hr⟩
  refine hattempt.bind fun r h' hr => ?_
  cases r with
  | ok a => exact hok a h' (hr a rfl)
  | error e => exact herror e h'

/-- A service that changes neither jobs nor outputs nor the queue, whether it fails or not. -/
structure Idle (p : Service α) : Prop where
  program (h : Hold) : Program.Fair (fun _ h' => h' = h) h p.run

theorem Idle.fair {p : Service α} (hp : Idle p) (h : Hold) : Fair h p fun _ h' => h' = h :=
  ⟨Program.Fair.imp (hp.program h) fun _ _ e _ _ => e⟩

theorem idle_pure (a : α) : Idle (pure a : Service α) := ⟨fun _ => rfl⟩

theorem idle_throw (e : ServiceError) : Idle (throw e : Service α) := ⟨fun _ => rfl⟩

theorem idle_result (r : Except ServiceError α) : Idle (result r) := ⟨fun _ => rfl⟩

theorem idle_now : Idle now := ⟨fun _ _ => rfl⟩

theorem idle_freshId (kind : IdKind) : Idle (freshId kind) := ⟨fun _ _ => rfl⟩

omit [Host] in
theorem after_of_isQuiet {c : Command} (hc : c.isQuiet = true) (r : Except Fault c.Reply) :
    h.after c r = h := by
  cases c with
  | createJob j => cases hc
  | updateJob id update => cases hc
  | writeFile p bs => cases hc
  | _ => cases r <;> rfl

theorem idle_command {c : Command} (hc : c.isQuiet = true) : Idle (command c) :=
  ⟨fun h => ⟨.quiet h hc, fun r _ => after_of_isQuiet hc r⟩⟩

theorem Idle.bind {p : Service α} (hp : Idle p) {f : α → Service β} (hf : ∀ a, Idle (f a)) :
    Idle (p >>= f) :=
  ⟨fun h => Program.Fair.bind (hp.program h) fun r h' e =>
    match r with
    | .ok a => e ▸ (hf a).program h'
    | .error _ => e⟩

theorem Idle.attempt {p : Service α} (hp : Idle p) : Idle (attempt p) :=
  ⟨fun h => Program.Fair.bind (hp.program h) fun _ _ e => e⟩

/-- What an idle service leaves as it is can be gone on with. -/
theorem Idle.bind_fair {p : Service α} (hp : Idle p) {f : α → Service β}
    (hf : ∀ a, Fair h (f a) R) : Fair h (p >>= f) R :=
  (hp.fair h).bind fun a _ e => e ▸ hf a

end Service

/-! ### Services that are idle -/

namespace Quota

theorem idle_giveBack (c : Counter) : Idle (giveBack c) := by
  unfold giveBack
  refine .bind (idle_command rfl) fun left => ?_
  split
  · exact .bind (idle_command rfl) fun _ => idle_pure _
  · exact idle_pure _

theorem idle_release (org : String) : Idle (release org) := by
  unfold release
  exact .bind (idle_giveBack _) fun _ => idle_pure _

theorem idle_refund (org : String) : Idle (refund org) := by
  unfold refund
  exact .bind idle_now fun _ => idle_giveBack _

theorem idle_takeSlot (s : Settings) (org : String) (month : Counter) (used : Int) :
    Idle (takeSlot s org month used) := by
  unfold takeSlot
  split
  · exact .bind (idle_command rfl) fun _ => idle_pure _
  · refine .bind (idle_command rfl) fun active => ?_
    split
    · exact .bind (idle_command rfl) fun _ => .bind (idle_command rfl) fun _ => idle_pure _
    · exact idle_pure _

theorem idle_reserve (s : Settings) (org : String) (size : Int) : Idle (reserve s org size) := by
  cases hsize : sizeRefusal? s size with
  | some reason =>
    rw [reserve, hsize]
    exact idle_pure _
  | none =>
    rw [reserve_of_size s org hsize]
    refine .bind idle_now fun now => .bind (idle_command rfl) fun used => ?_
    split
    · exact .bind (idle_command rfl) fun _ => idle_takeSlot _ _ _ _
    · exact idle_takeSlot _ _ _ _

end Quota

namespace Configurations

theorem idle_find? (org id : String) (inactive : Bool) : Idle (find? org id inactive) := by
  unfold find?
  exact .bind (idle_command rfl) fun _ => idle_pure _

theorem idle_save (c : Configuration) : Idle (save c) := by
  unfold save
  exact .bind idle_now fun _ => .bind (idle_command rfl) fun _ => .bind (idle_result _) fun _ =>
    .bind (idle_command rfl) fun _ => .bind (idle_command rfl) fun _ => idle_pure _

theorem idle_list (org : String) (inactive : Bool) : Idle (list org inactive) := by
  unfold list
  refine .bind (idle_command rfl) fun (ids : List String) => ?_
  split
  · exact idle_pure _
  · exact .bind (idle_command rfl) fun _ => idle_pure _

theorem idle_deactivate (org id : String) : Idle (deactivate org id) := by
  unfold deactivate
  refine .bind (idle_find? org id false) fun found => ?_
  cases found with
  | none => exact idle_pure _
  | some c => exact .bind idle_now fun _ => .bind (idle_command rfl) fun _ => idle_pure _

end Configurations

namespace Jobs

theorem idle_find? (id : String) (org : Option String) : Idle (find? id org) := by
  unfold find?
  exact .bind (idle_command rfl) fun _ => idle_pure _

theorem idle_newest (org : String) (limit : Int) : Idle (newest org limit) := by
  unfold newest
  refine .bind (idle_command rfl) fun ids => ?_
  exact iteInduction (fun _ => idle_pure _) fun _ => idle_command rfl

end Jobs

namespace Outputs

theorem idle_link (s : Settings) (ref : String) (lifetime : Int) : Idle (link s ref lifetime) := by
  unfold link
  exact .bind idle_now fun _ => idle_pure _

theorem idle_read (ref : String) : Idle (read ref) := by
  unfold read
  refine .bind (idle_result _) fun p => .bind (idle_command rfl) fun found => ?_
  split
  · exact idle_pure _
  · exact idle_throw _
  · exact idle_throw _

theorem idle_verify (s : Settings) (token : String) : Idle (verify s token) := by
  unfold verify
  exact .bind idle_now fun _ => idle_result _

end Outputs

namespace Submission

theorem idle_giveBack (org : String) (completed : Bool) : Idle (giveBack org completed) := by
  unfold giveBack
  refine .bind (.attempt (.bind (Quota.idle_release org) fun _ => ?_)) fun _ => idle_pure _
  split
  · exact .bind (Quota.idle_refund org) fun _ => idle_pure _
  · exact idle_pure _

theorem idle_configurationFor (org id : String) : Idle (configurationFor org id) := by
  unfold configurationFor
  refine .bind (Configurations.idle_find? org id false) fun found => ?_
  cases found with
  | none => exact idle_throw _
  | some c => exact idle_pure _

end Submission

theorem Task.idle_prepare (t : Task) : Idle t.prepare := by
  unfold prepare
  exact .bind (Submission.idle_configurationFor _ _) fun _ =>
    .bind (idle_result _) fun _ => idle_pure _

theorem Health.idle_check (s : Settings) : Idle (check s) := by
  have hthere : Idle isStoreThere := by
    unfold isStoreThere
    refine .bind (.attempt (idle_command rfl)) fun r => ?_
    cases r <;> exact idle_pure _
  have hqueue : Idle (queue s) := by
    unfold queue
    exact .bind (idle_command rfl) fun _ => idle_pure _
  unfold check
  refine .bind hthere fun there => ?_
  split
  · refine .bind (.attempt hqueue) fun r => ?_
    cases r <;> exact idle_pure _
  · exact idle_pure _

/-! ### Services that work for a job -/

section Services
variable {h : Hold}

namespace Jobs

/-- A job that was created is stored, and taken if it is under way. -/
theorem fair_create {j : Job} (hj : Command.Fair h (.createJob j)) :
    Fair h (create j) fun k h' => k = j ∧ h' = .ofJob j := by
  unfold create
  split
  · refine (fair_command hj).bind fun created h' hcreated => ?_
    obtain ⟨-, rfl⟩ := hcreated
    cases hc : (created : Bool) with
    | false => exact fair_throw _
    | true => exact (idle_command rfl).bind_fair fun _ => fair_pure ⟨rfl, rfl⟩
  · exact fair_throw _

/-- A job that was moved is the next one of a job that was stored. -/
theorem fair_move {id : String} {target : JobStatus} {fields : List JobField}
    (hc : ∀ now, Command.Fair h (.updateJob id (next id target now fields))) :
    Fair h (move id target fields) fun k h' =>
      h' = (if k.status = .processing then .taken k else .nothing) ∧
        ∃ (j : Job) (now : DateTime), k = j.moved target now fields ∧
          ∀ j₀, h = .stored j₀ → j₀.id = id → j.fileName = j₀.fileName := by
  unfold move
  refine idle_now.bind_fair fun now => (fair_command (hc now)).bind fun r h' hr => ?_
  refine (fair_result r).imp fun k h'' hk => ?_
  obtain ⟨rfl, rfl⟩ := hk
  obtain ⟨⟨j, hj, hnamed⟩, rfl⟩ := hr
  rw [next] at hj
  split at hj
  · exact ⟨rfl, j, now, (Except.ok.inj hj).symm, hnamed⟩
  · cases hj

end Jobs

/-- An output that was saved stands where its reference says. -/
theorem Outputs.fair_save {j : Job} {org job name : String} {bs : Bytes}
    (hmakes : j.Makes (refOf org job name) bs) :
    Fair (.taken j) (save org job name bs) fun ref h' =>
      ref = refOf org job name ∧ ∃ p, path ref = .ok p ∧ h' = .written j p bs := by
  unfold save
  refine (fair_result _).bind fun p h' hp => ?_
  obtain ⟨hp, rfl⟩ := hp
  refine (fair_command (.write hmakes hp)).bind fun written h' hwritten => ?_
  obtain ⟨-, rfl⟩ := hwritten
  cases (written : Except FileFault Unit) with
  | error e => exact fair_throw _
  | ok _ => exact fair_pure ⟨rfl, p, hp, rfl⟩

namespace Submission

/-- Whatever a program has made sure of, it may mark a job as failed. -/
theorem fair_markFailed (h : Hold) (j : Job) (message : String) (log : Option Value) :
    Fair h (markFailed j message log) fun _ _ => True := by
  unfold markFailed
  refine (Jobs.fair_move fun now => .fail h j.id message now log).attempt_bind
    (fun _ _ _ => fair_pure trivial) fun e h' => ?_
  dsimp only
  split
  · exact (Jobs.idle_find? _ _).bind_fair fun _ => fair_pure trivial
  · exact idle_now.bind_fair fun _ => fair_pure trivial

variable {j : Job} {c : Configuration} {file : File} {fileName : String} {r : RunResult}

theorem fair_deliver (hname : j.fileName = some fileName) (hr : c.transform file fileName = .ok r)
    (hrun : r.aborted = false) : Fair (.taken j) (deliver j c fileName r) fun _ _ => True := by
  have hmakes : j.Makes (Outputs.refOf j.organization j.id (outputName c fileName))
      (c.outputBytes r.matrix).bytes := .of c file fileName r hname hr hrun rfl rfl
  unfold deliver
  refine (Outputs.fair_save hmakes).bind fun ref h' hsaved => ?_
  obtain ⟨rfl, p, hp, rfl⟩ := hsaved
  exact (Jobs.fair_move fun now => .complete now _ hmakes hp).bind fun _ _ _ => fair_pure trivial

theorem fair_finish (hname : j.fileName = some fileName)
    (hr : c.transform file fileName = .ok r) :
    Fair (.taken j) (finish j c fileName r) fun _ _ => True := by
  unfold finish
  split
  · exact (fair_markFailed _ _ _ _).bind fun _ _ _ => fair_pure trivial
  · rename_i hrun
    exact (fair_deliver hname hr (by simpa using hrun)).bind fun _ _ _ => fair_pure trivial

theorem fair_carryOut (hname : j.fileName = some fileName) (c : Configuration) (file : File) :
    Fair (.taken j) (carryOut j c file fileName) fun _ _ => True := by
  unfold carryOut
  split
  · exact (fair_markFailed _ _ _ _).bind fun _ _ _ => fair_pure trivial
  · rename_i r hr
    exact (fair_finish hname hr).attempt_bind (fun _ _ _ => fair_pure trivial) fun e h' =>
      (fair_markFailed _ _ _ _).bind fun _ _ _ => fair_pure trivial

/-- A job that was taken may be carried out with a file of its name. -/
theorem fair_execute (hname : j.fileName = some fileName) (c : Configuration) (file : File) :
    Fair (.taken j) (execute j c file fileName) fun _ _ => True := by
  unfold execute
  exact (fair_carryOut hname c file).attempt_bind
    (fun done h' _ => (idle_giveBack _ _).bind_fair fun _ => fair_pure trivial)
    fun e h' => (idle_giveBack _ _).bind_fair fun _ => fair_throw _

theorem fair_publish (s : Submission) (hname : j.fileName = some s.fileName) :
    Fair (.stored j) (publish s j) fun _ _ => True := by
  unfold publish
  refine (fair_command (.publish (t := s.task j) rfl hname)).attempt_bind
    (fun _ _ _ => fair_pure trivial) fun e h' => ?_
  exact (fair_markFailed _ _ _ _).bind fun _ _ _ =>
    (idle_giveBack _ _).bind_fair fun _ => fair_pure trivial

theorem fair_createJob (s : Submission) (hj : Command.Fair h (.createJob j)) :
    Fair h (createJob s j) fun k h' => k = j ∧ h' = .ofJob j := by
  unfold createJob
  exact (Jobs.fair_create hj).attempt_bind (fun k h' hk => fair_pure hk) fun e h' =>
    (idle_giveBack _ _).bind_fair fun _ => fair_throw _

theorem fair_start (h : Hold) (s : Submission) (c : Configuration) (mode : Mode) :
    Fair h (start s c mode) fun _ _ => True := by
  unfold start proceed
  refine idle_now.bind_fair fun now => (fair_freshId _).bind fun id h' hid => ?_
  obtain ⟨-, n, rfl⟩ := hid
  refine (fair_createJob s (.create h' s n c.id mode now)).bind fun j h'' hj => ?_
  obtain ⟨rfl, rfl⟩ := hj
  cases mode with
  | queued => exact (fair_publish s rfl).bind fun _ _ _ => fair_pure trivial
  | sync => exact (fair_execute rfl c s.file).bind fun _ _ _ => fair_pure trivial

/-- **Handing in a file is fair.** -/
theorem fair_submit (h : Hold) (settings : Settings) (s : Submission) :
    Fair h (submit settings s) fun _ _ => True := by
  rw [submit_eq]
  refine (idle_configurationFor _ _).bind_fair fun c => ?_
  split
  · refine (Quota.idle_reserve _ _ _).bind_fair fun decision => ?_
    cases decision with
    | denied reason counts => exact fair_throw _
    | allowed counts => exact fair_start h s c _
  · exact fair_throw _

end Submission

namespace Task

theorem fair_process {t : Task} {j : Job} (hid : j.id = t.job) (hname : j.fileName = some t.fileName) :
    Fair (.stored j) t.process fun _ _ => True := by
  unfold process
  refine (Jobs.fair_move fun now => .take _ t.job now).attempt_bind (fun k h' hk => ?_) fun e h' => ?_
  · obtain ⟨hold, j', now, hmoved, hnamed⟩ := hk
    have hk : k.status = .processing ∧ k.fileName = some t.fileName := by
      rw [hmoved, Job.moved_processing]
      exact ⟨rfl, (hnamed j rfl hid).trans hname⟩
    rw [hold, if_pos hk.1]
    refine (idle_prepare t).attempt.bind_fair fun prepared => ?_
    cases prepared with
    | ok p =>
      exact (Submission.fair_execute hk.2 p.1 ⟨p.2⟩).bind fun _ _ _ => fair_pure trivial
    | error e =>
      exact (Submission.fair_markFailed _ _ _ _).bind fun _ _ _ =>
        (Submission.idle_giveBack _ _).bind_fair fun _ => fair_pure trivial
  · dsimp only
    split
    · exact fair_pure trivial
    · exact fair_throw _

/-- **Carrying out what was queued is fair** if the job is stored under the name of the file. -/
theorem fair_processPayload {t : Task} {j : Job} (hid : j.id = t.job)
    (hname : j.fileName = some t.fileName) :
    Fair (.stored j) (processPayload t.payload) fun _ _ => True := by
  rw [processPayload, ofPayload_payload]
  exact fair_process hid hname

end Task

end Services

end Sheetflow
