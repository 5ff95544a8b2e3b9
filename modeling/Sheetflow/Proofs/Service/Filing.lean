import Sheetflow.Proofs.File.Place
import Sheetflow.Proofs.Service.Holds
import Sheetflow.Proofs.Service.Owners

/-!
# Outputs that are filed

A world is filed if every completed job has its output, under the reference in its record and at a path
that is no other job's (`World.Filed`).  `World.Does` lists all that a fair command can do to jobs,
queue and outputs.  Each keeps a filed world filed, does not touch what other programs have made sure
of, and leaves completed jobs and their outputs as they are.
-/

namespace Sheetflow

open Service

/-! ### Paths of jobs -/

theorem Nat.notMem_toDigits {c : Char} (hdigit : ∀ d < 16, c ≠ Nat.digitChar d) (n : Nat) :
    c ∉ Nat.toDigits 16 n := by
  induction n using Nat.strongRecOn with
  | ind n ih =>
    rw [Nat.toDigits_eq_if (by decide)]
    split
    · rename_i hn
      rw [List.mem_singleton]
      exact hdigit n hn
    · rw [List.mem_append, not_or, List.mem_singleton]
      exact ⟨ih _ (by omega), hdigit _ (by omega)⟩

theorem IdKind.toList_id (n : Nat) : (IdKind.job.id n).toList = "job_".toList ++ Text.hex 32 n := by
  rw [IdKind.id, String.toList_append, String.toList_ofList]
  rfl

/-- The id of a job is made of its start and digits. -/
theorem IdKind.notMem_id {c : Char} (hstart : c ∉ "job_".toList)
    (hdigit : ∀ d < 16, c ≠ Nat.digitChar d) (n : Nat) : c ∉ (IdKind.job.id n).toList := by
  rw [IdKind.toList_id]
  intro h
  rcases List.mem_append.mp h with h | h
  · exact hstart h
  · rcases List.mem_append.mp h with h | h
    · exact hdigit 0 (by decide) (List.eq_of_mem_replicate h)
    · exact Nat.notMem_toDigits hdigit n h

/-- The id of a job is a plain name. -/
theorem IdKind.isPart_id (n : Nat) : FileName.IsPart (IdKind.job.id n).toList := by
  refine FileName.isPart_of_mem (IdKind.notMem_id (by decide) (by decide) n) ?_
  rw [IdKind.toList_id]
  exact List.mem_append_left _ (by decide)

variable [Host]

/-- A path at which outputs of a job stand. -/
def Path.IsOf (id : String) (p : Path) : Prop := ∃ q name, Host.root ++ p = q ++ [id, name]

/-- A path is that of one job. -/
theorem Path.IsOf.eq {i k : String} {p : Path} (h : p.IsOf i) (g : p.IsOf k) : i = k := by
  obtain ⟨q, name, h⟩ := h
  obtain ⟨q', name', g⟩ := g
  have hends := (List.append_inj' (h.symm.trans g) rfl).2
  exact (List.cons.inj hends).1

namespace Job
variable {j k : Job} {ref : String} {bs : Bytes} {p : Path}

theorem Makes.becomes (h : j.Makes ref bs) (hk : j.Becomes k) : k.Makes ref bs := by
  obtain ⟨c, file, name, r, named, transform, finished, href, bytes⟩ := h
  refine .of c file name r (hk.fileName.trans named) transform finished ?_ bytes
  rw [href, hk.organization, hk.id]

theorem Makes.isOf (h : j.Makes ref bs) {n : Nat} (hid : j.id = IdKind.job.id n)
    (hp : Outputs.path ref = .ok p) : p.IsOf j.id := by
  obtain ⟨c, file, name, r, -, -, -, rfl, -⟩ := h
  have hname : FileName.IsPart (FileName.base (Submission.outputName c name)).toList := by
    have hpart := FileName.isPart_ofOutput name c.output.delimiter
    rw [FileName.base, String.toList_ofList, Submission.outputName, hpart.baseChars]
    exact hpart
  unfold Outputs.path at hp
  split at hp
  · rename_i q hlocation
    obtain rfl := Except.ok.inj hp
    obtain ⟨-, -, hplace⟩ := Location.ofRef_below_iff.mp hlocation
    obtain ⟨before, hbefore⟩ := @Location.exists_of_place Host.root j.organization _ _
      (hid ▸ IdKind.isPart_id n) hname
    exact ⟨before, _, hplace.symm.trans hbefore⟩
  · cases hp
  · cases hp

/-- The output of a job stands where the record of the job says. -/
def IsFiled (files : FileTree) (j : Job) : Prop :=
  ∃ ref bs p, j.outputRef = some ref ∧ j.Makes ref bs ∧ Outputs.Leads files ref bs p

end Job

/-! ### Worlds with outputs -/

namespace World
variable {w w' : World} {h h' g : Hold}

/-- Every completed job has its output, and what is queued are tasks for jobs that are there. -/
structure Filed (w : World) : Prop where
  races : w.races = []
  named : ∀ id j, w.store.jobs.get? id = some j → j.id = id ∧ ∃ n, id = IdKind.job.id n
  queued : ∀ p ∈ w.queue, ∃ t j, p = Task.payload t ∧ w.store.jobs.get? t.job = some j ∧
    j.fileName = some t.fileName
  outputs : ∀ id j, w.store.jobs.get? id = some j → j.status = .completed → j.IsFiled w.files

theorem filed_empty (settings : Settings) (start : Instant) :
    Filed { clock := start, settings } where
  races := rfl
  named _ _ hj := nomatch hj
  queued _ hp := nomatch hp
  outputs _ _ hj := nomatch hj

/-- A job is stored that goes on where this one was, and it is under way or has failed since. -/
def HasTaken (w : World) (j : Job) : Prop :=
  ∃ k, w.store.jobs.get? j.id = some k ∧ j.Becomes k ∧
    (k.status = .processing ∨ k.status = .failed)

/-- What a program has made sure of is so. -/
def Bears (w : World) : Hold → Prop
  | .nothing => True
  | .stored j => ∃ k, w.store.jobs.get? j.id = some k ∧ j.Becomes k
  | .taken j => w.HasTaken j
  | .written j p bs => w.HasTaken j ∧ p.IsOf j.id ∧ p.Fits ∧ w.files.HasFile p bs

end World

namespace Hold

/-- The job that a program has taken. -/
def job? : Hold → Option Job
  | .nothing => none
  | .stored _ => none
  | .taken j => some j
  | .written j _ _ => some j

/-- Two programs have not taken the same job. -/
def Apart (h g : Hold) : Prop := ∀ j k, h.job? = some j → g.job? = some k → j.id ≠ k.id

omit [Host] in
theorem Apart.symm {h g : Hold} (hapart : h.Apart g) : g.Apart h :=
  fun j k hj hk heq => hapart k j hk hj heq.symm

omit [Host] in
theorem job?_ofJob {j k : Job} (h : (ofJob j).job? = some k) : k = j ∧ j.status = .processing := by
  unfold ofJob at h
  split at h
  · exact ⟨(Option.some.inj h).symm, ‹_›⟩
  · cases h

end Hold

/-! ### What a fair command does -/

namespace World
variable {w w' : World} {h h' g : Hold}

/-- What a fair command can do to jobs, queue and outputs, and what its program has made sure of then. -/
inductive Does (w w' : World) (h : Hold) : Hold → Prop
  | nothing (jobs : w'.store.jobs = w.store.jobs) (queue : w'.queue = w.queue)
    (files : ∀ p bs, w'.files.HasFile p bs ↔ w.files.HasFile p bs) : Does w w' h h
  | created (j : Job) (fresh : w.store.jobs.get? j.id = none) (named : ∃ n, j.id = IdKind.job.id n)
    (status : j.status ≠ .completed) (jobs : w'.store.jobs = w.store.jobs.set j.id j)
    (queue : w'.queue = w.queue) (files : w'.files = w.files) : Does w w' h (.ofJob j)
  /-- A job is moved, and completed only when its output was written. -/
  | moved (id : String) (j k : Job) (stored : w.store.jobs.get? id = some j) (becomes : j.Becomes k)
    (move : j.status.canMove k.status = true)
    (completed : k.status = .completed → ∃ j₀ p bs ref, h = .written j₀ p bs ∧ j₀.id = id ∧
      j₀.Makes ref bs ∧ Outputs.path ref = .ok p ∧ k.outputRef = some ref)
    (jobs : w'.store.jobs = w.store.jobs.set id k) (queue : w'.queue = w.queue)
    (files : w'.files = w.files) :
    Does w w' h (if k.status = .processing then .taken k else .nothing)
  | queued (j : Job) (t : Task) (stored : h = .stored j) (job : t.job = j.id)
    (named : j.fileName = some t.fileName) (jobs : w'.store.jobs = w.store.jobs)
    (queue : w'.queue = w.queue ++ [t.payload]) (files : w'.files = w.files) : Does w w' h h
  /-- The output of a job that was taken is written. -/
  | written (j : Job) (p : Path) (bs : Bytes) (ref : String) (taken : h = .taken j)
    (makes : j.Makes ref bs) (path : Outputs.path ref = .ok p) (fits : p.Fits)
    (file : w'.files.HasFile p bs)
    (others : ∀ q ≠ p, ∀ bs', w'.files.HasFile q bs' ↔ w.files.HasFile q bs')
    (jobs : w'.store.jobs = w.store.jobs) (queue : w'.queue = w.queue) :
    Does w w' h (.written j p bs)

/-- What a fair command can do. -/
structure Acts (w w' : World) (h h' : Hold) : Prop where
  races : w'.races = w.races
  settings : w'.settings = w.settings
  clock : w'.clock = w.clock
  does : w.Does w' h h'

theorem Acts.of_same (hraces : w'.races = w.races) (hsettings : w'.settings = w.settings)
    (hclock : w'.clock = w.clock) (hjobs : w'.store.jobs = w.store.jobs)
    (hqueue : w'.queue = w.queue) (hfiles : w'.files = w.files) : w.Acts w' h h :=
  ⟨hraces, hsettings, hclock, .nothing hjobs hqueue fun _ _ => hfiles ▸ .rfl⟩

/-- A command that is quiet does nothing that counts. -/
theorem acts_of_isQuiet (h : Hold) {c : Command} (hc : c.isQuiet = true) :
    w.Acts (w.perform c).1 h h := by
  have hattempt {ρ : Type} (op : Operation) {act : World → World × Except Fault ρ}
      (hact : ∀ faults connected, w.Acts (act { w with faults, connected }).1 h h) :
      w.Acts (w.attempt op act).1 h h :=
    attempt_induction (Q := fun v => w.Acts v h h) w op
      (fun _ _ => .of_same rfl rfl rfl rfl rfl rfl) hact
  cases c with
  | createJob j => cases hc
  | updateJob id update => cases hc
  | enqueue t => cases hc
  | writeFile p bs => cases hc
  | indexConfiguration org id =>
    exact hattempt _ fun _ _ =>
      .of_same rfl rfl rfl (Store.jobs_addConfigurationId _ _ _) rfl rfl
  | setLifetime k seconds =>
    exact hattempt _ fun _ _ =>
      .of_same rfl rfl rfl (Store.SameRecords.setLifetime _ _ _).jobs rfl rfl
  | ping =>
    rw [perform]
    split
    · exact hattempt _ fun _ _ => .of_same rfl rfl rfl rfl rfl rfl
    · exact .of_same rfl rfl rfl rfl rfl rfl
  | readFile p => exact .of_same rfl rfl rfl rfl rfl rfl
  | _ => exact hattempt _ fun _ _ => .of_same rfl rfl rfl rfl rfl rfl

theorem acts_createJob (h : Hold) {j : Job} (named : ∃ n, j.id = IdKind.job.id n)
    (hstatus : j.status ≠ .completed) :
    w.Acts (w.perform (.createJob j)).1 h (h.after (.createJob j) (w.perform (.createJob j)).2) := by
  refine outcome_induction (Q := fun r => w.Acts r.1 h (h.after (.createJob j) r.2)) w _
    (fun _ _ _ => .of_same rfl rfl rfl rfl rfl rfl) fun faults connected => ?_
  show w.Acts (if _ then _ else _ : World × Except Fault Bool).1 h _
  cases hj : w.store.jobs.get? j.id with
  | some k => exact .of_same rfl rfl rfl rfl rfl rfl
  | none => exact ⟨rfl, rfl, rfl, .created j hj named hstatus rfl rfl rfl⟩

theorem acts_updateJob (hraces : w.races = []) {id : String} {target : JobStatus} {now : DateTime}
    {fields : List JobField} (hstage : Submission.Stage target fields)
    (hcompleted : target = .completed → ∀ j : Job, ∃ j₀ p bs ref, h = .written j₀ p bs ∧ j₀.id = id ∧
      j₀.Makes ref bs ∧ Outputs.path ref = .ok p ∧
      (j.moved target now fields).outputRef = some ref) :
    let c : Command := .updateJob id (Jobs.next id target now fields)
    w.Acts (w.perform c).1 h (h.after c (w.perform c).2) := by
  intro c
  have hperform : w.perform c = updateJob id (Jobs.next id target now fields) [] w := by
    rw [← hraces]
    rfl
  rw [hperform]
  let Q (r : World × Except Fault (Except ServiceError Job)) : Prop := w.Acts r.1 h (h.after c r.2)
  show Q _
  have hfail (faults : List PlannedFault) (connected : Bool) (f : Fault) :
      Q ({ w with faults, connected }, .error f) := .of_same rfl rfl rfl rfl rfl rfl
  rw [updateJob]
  refine outcome_induction w _ hfail fun _ _ => outcome_induction _ _ hfail fun _ _ => ?_
  cases hj : w.store.jobs.get? id with
  | none => exact .of_same rfl rfl rfl rfl rfl rfl
  | some j =>
    by_cases hmove : j.status.canMove target = true
    · simp only [Jobs.next, hmove, if_true]
      refine outcome_induction _ _ hfail fun _ _ => ?_
      have hstatus := hstage.status_moved j now
      refine ⟨rfl, rfl, rfl, .moved id j (j.moved target now fields) hj (hstage.becomes hmove now)
        (hstatus.symm ▸ hmove) (fun hk => hcompleted (hstatus.symm.trans hk) j) rfl rfl rfl⟩
    · simp only [Jobs.next, hmove]
      exact .of_same rfl rfl rfl rfl rfl rfl

/-- **What a fair command does**, whatever it replies. -/
theorem acts_perform (hraces : w.races = []) {c : Command} (hc : c.Fair h) :
    w.Acts (w.perform c).1 h (h.after c (w.perform c).2) := by
  cases hc with
  | create _ s n configuration mode now =>
    exact acts_createJob h ⟨n, rfl⟩ (by cases mode <;> exact nofun)
  | take _ id now => exact acts_updateJob hraces .taken nofun
  | fail _ id message now log =>
    exact acts_updateJob hraces (.ended (.failed message log)) nofun
  | complete now log makes path =>
    exact acts_updateJob hraces (.ended (.completed _ log)) fun _ j =>
      ⟨_, _, _, _, rfl, rfl, makes, path, rfl⟩
  | @publish j t job named =>
    refine outcome_induction (Q := fun r => w.Acts r.1 (.stored j) ((Hold.stored j).after (.enqueue t) r.2))
      w _ (fun _ _ _ => .of_same rfl rfl rfl rfl rfl rfl) fun _ _ => ?_
    exact ⟨rfl, rfl, rfl, .queued j t rfl job named rfl rfl rfl⟩
  | @write j p bs ref makes path =>
    have hperform : w.perform (.writeFile p bs) =
      ({ w with files := (w.files.write p bs).1 }, .ok (w.files.write p bs).2) := rfl
    rw [hperform]
    cases hw : w.files.write p bs with
    | mk files written =>
      cases written with
      | error e =>
        exact ⟨rfl, rfl, rfl, .nothing rfl rfl fun q bs' => FileTree.hasFile_of_write_error hw⟩
      | ok _ =>
        obtain ⟨hfile, hothers⟩ := FileTree.hasFile_of_write hw
        exact ⟨rfl, rfl, rfl, .written j p bs ref rfl makes path (FileTree.fits_of_write hw) hfile
          hothers rfl rfl⟩
  | quiet _ hc =>
    rw [after_of_isQuiet hc]
    exact acts_of_isQuiet h hc

/-- A fair command gets a reply that there may be. -/
theorem expects_perform (hraces : w.races = []) (hh : w.Bears h) {c : Command} (hc : c.Fair h) :
    h.Expects c (w.perform c).2 := by
  have hupdate {id : String} {target : JobStatus} {now : DateTime} {fields : List JobField} :
      let c : Command := .updateJob id (Jobs.next id target now fields)
      h.Expects c (w.perform c).2 := by
    intro c
    match hreply : (w.perform c).2 with
    | .error f => trivial
    | .ok (.error e) => trivial
    | .ok (.ok k) =>
      have hperform : w.perform c = updateJob id (Jobs.next id target now fields) [] w := by
        rw [← hraces]
        rfl
      rw [hperform] at hreply
      have hnext := of_updateJob hreply
      cases hj : w.store.jobs.get? id with
      | none =>
        rw [hj] at hnext
        cases hnext
      | some j =>
        refine ⟨j, hj ▸ hnext, ?_⟩
        rintro j₀ rfl rfl
        obtain ⟨l, hl, hjl⟩ := hh
        obtain rfl := Option.some.inj (hj.symm.trans hl)
        exact hjl.fileName
  cases hc with
  | take _ id now => exact hupdate
  | fail _ id message now log => exact hupdate
  | complete now log makes path => exact hupdate
  | quiet _ hc =>
    cases c with
    | updateJob id update => cases hc
    | _ => exact trivial
  | _ => exact trivial

/-! ### What a fair command leaves -/

theorem Bears.hasTaken (hh : w.Bears h) {j : Job} (hj : h.job? = some j) : w.HasTaken j := by
  cases h with
  | nothing => cases hj
  | stored k => cases hj
  | taken k =>
    obtain rfl := Option.some.inj hj
    exact hh
  | written k p bs =>
    obtain rfl := Option.some.inj hj
    exact hh.1

/-- A program has not taken a job that is completed. -/
theorem Bears.id_ne (hh : w.Bears h) {j : Job} (hj : h.job? = some j) {id : String} {k : Job}
    (hk : w.store.jobs.get? id = some k)
    (hstatus : k.status ≠ .processing ∧ k.status ≠ .failed) : j.id ≠ id := by
  rintro rfl
  obtain ⟨l, hl, -, hl'⟩ := hh.hasTaken hj
  obtain rfl := Option.some.inj (hk.symm.trans hl)
  exact hl'.elim hstatus.1 hstatus.2

/-- A stored job goes on, and only the program that has taken it completes it. -/
theorem Does.goesOn (hdoes : w.Does w' h h') {id : String} {j : Job}
    (hj : w.store.jobs.get? id = some j) :
    ∃ k, w'.store.jobs.get? id = some k ∧ j.Becomes k ∧ (k = j ∨ j.status.canMove k.status = true ∧
      (k.status = .completed → ∃ j₀, h.job? = some j₀ ∧ j₀.id = id)) := by
  have hsame (hjobs : w'.store.jobs = w.store.jobs) :
      ∃ k, w'.store.jobs.get? id = some k ∧ j.Becomes k ∧ (k = j ∨ j.status.canMove k.status = true ∧
        (k.status = .completed → ∃ j₀, h.job? = some j₀ ∧ j₀.id = id)) :=
    ⟨j, hjobs ▸ hj, .refl j, .inl rfl⟩
  cases hdoes with
  | nothing jobs queue files => exact hsame jobs
  | queued i t stored job named jobs queue files => exact hsame jobs
  | written i p bs ref taken makes path fits file others jobs queue => exact hsame jobs
  | created i fresh named status jobs queue files =>
    have hne : id ≠ i.id := fun h => by
      rw [h, fresh] at hj
      cases hj
    exact ⟨j, by rw [jobs, Table.get?_set_ne _ _ hne, hj], .refl j, .inl rfl⟩
  | moved i j' k stored becomes move completed jobs queue files =>
    by_cases hid : id = i
    · subst hid
      obtain rfl := Option.some.inj (hj.symm.trans stored)
      refine ⟨k, by rw [jobs, Table.get?_set_self], becomes, .inr ⟨move, fun hk => ?_⟩⟩
      obtain ⟨j₀, p, bs, ref, rfl, hid, -⟩ := completed hk
      exact ⟨j₀, rfl, hid⟩
    · exact ⟨j, by rw [jobs, Table.get?_set_ne _ _ hid, hj], .refl j, .inl rfl⟩

/-- What others have taken stays so. -/
theorem Does.hasTaken (hdoes : w.Does w' h h') {j : Job} (hj : w.HasTaken j)
    (hapart : ∀ j₀, h.job? = some j₀ → j₀.id ≠ j.id) : w'.HasTaken j := by
  obtain ⟨k, hk, hjk, hstatus⟩ := hj
  obtain ⟨l, hl, hkl, rfl | ⟨hmove, hcompleted⟩⟩ := hdoes.goesOn hk
  · exact ⟨l, hl, hjk, hstatus⟩
  · refine ⟨l, hl, hjk.trans hkl, ?_⟩
    rcases (JobStatus.canMove_iff _ _).mp hmove with ⟨hpending, -⟩ | ⟨-, hnext | hnext⟩
    · rcases hstatus with h | h <;> exact JobStatus.noConfusion (hpending.symm.trans h)
    · obtain ⟨j₀, hj₀, hid⟩ := hcompleted hnext
      exact absurd hid (hapart j₀ hj₀)
    · exact .inr hnext

/-- The outputs of other jobs stay. -/
theorem Does.hasFile (hw : w.Filed) (hh : w.Bears h) (hdoes : w.Does w' h h') {id : String} {q : Path}
    {bs : Bytes} (hq : q.IsOf id) (hapart : ∀ j₀, h.job? = some j₀ → j₀.id ≠ id)
    (hfile : w.files.HasFile q bs) : w'.files.HasFile q bs := by
  cases hdoes with
  | nothing jobs queue files => exact (files q bs).mpr hfile
  | created i fresh named status jobs queue files => exact files ▸ hfile
  | moved i j k stored becomes move completed jobs queue files => exact files ▸ hfile
  | queued i t stored job named jobs queue files => exact files ▸ hfile
  | written j p bs' ref taken makes path fits file others jobs queue =>
    obtain ⟨k, hk, -⟩ := hh.hasTaken (j := j) (by rw [taken]; rfl)
    obtain ⟨-, n, hid⟩ := hw.named j.id k hk
    refine (others q (fun hqp => ?_) bs).mpr hfile
    exact hapart j (by rw [taken]; rfl) ((makes.isOf hid path).eq (hqp ▸ hq))

/-- **What other programs have made sure of stays so**, and no job is taken that another has taken. -/
theorem Does.bears_other (hw : w.Filed) (hh : w.Bears h) (hdoes : w.Does w' h h') (hg : w.Bears g)
    (hapart : h.Apart g) : w'.Bears g ∧ h'.Apart g := by
  have hother {j : Job} (hj : g.job? = some j) (j₀ : Job) (hj₀ : h.job? = some j₀) : j₀.id ≠ j.id :=
    hapart j₀ j hj₀ hj
  refine ⟨?_, ?_⟩
  · cases g with
    | nothing => trivial
    | stored j =>
      obtain ⟨k, hk, hjk⟩ := hg
      obtain ⟨l, hl, hkl, -⟩ := hdoes.goesOn hk
      exact ⟨l, hl, hjk.trans hkl⟩
    | taken j => exact hdoes.hasTaken hg (hother rfl)
    | written j p bs =>
      obtain ⟨htaken, hp, hfits, hfile⟩ := hg
      exact ⟨hdoes.hasTaken htaken (hother rfl), hp, hfits,
        hdoes.hasFile hw hh hp (hother rfl) hfile⟩
  · intro i j hi hj
    cases hdoes with
    | nothing jobs queue files => exact hapart i j hi hj
    | queued k t stored job named jobs queue files => exact hapart i j hi hj
    | written k p bs ref taken makes path fits file others jobs queue =>
      exact hapart i j (taken ▸ hi) hj
    | created k fresh named status jobs queue files =>
      obtain ⟨rfl, -⟩ := Hold.job?_ofJob hi
      obtain ⟨l, hl, -⟩ := hg.hasTaken hj
      intro hid
      rw [← hid, fresh] at hl
      cases hl
    | moved id k l stored becomes move completed jobs queue files =>
      split at hi
      · rename_i hprocessing
        obtain rfl := Option.some.inj hi
        have hpending : k.status = .pending := by
          rw [hprocessing] at move
          simpa using (JobStatus.canMove_iff _ _).mp move
        rw [becomes.id, (hw.named id k stored).1]
        exact (hg.id_ne hj stored (by rw [hpending]; exact ⟨nofun, nofun⟩)).symm
      · cases hi

/-- What a program has made sure of is so. -/
theorem Does.bears_self (hw : w.Filed) (hh : w.Bears h) (hdoes : w.Does w' h h') : w'.Bears h' := by
  cases hdoes with
  | nothing jobs queue files =>
    cases h with
    | nothing => trivial
    | stored j =>
      obtain ⟨k, hk, hjk⟩ := hh
      exact ⟨k, jobs ▸ hk, hjk⟩
    | taken j =>
      obtain ⟨k, hk, hjk⟩ := hh
      exact ⟨k, jobs ▸ hk, hjk⟩
    | written j p bs =>
      obtain ⟨⟨k, hk, hjk⟩, hp, hfits, hfile⟩ := hh
      exact ⟨⟨k, jobs ▸ hk, hjk⟩, hp, hfits, (files p bs).mpr hfile⟩
  | created j fresh named status jobs queue files =>
    have hget : w'.store.jobs.get? j.id = some j := by rw [jobs, Table.get?_set_self]
    unfold Hold.ofJob
    split
    · exact ⟨j, hget, .refl j, .inl ‹_›⟩
    · exact ⟨j, hget, .refl j⟩
  | moved id j k stored becomes move completed jobs queue files =>
    split
    · have hid : k.id = id := becomes.id.trans (hw.named id j stored).1
      exact ⟨k, by rw [hid, jobs, Table.get?_set_self], .refl k, .inl ‹_›⟩
    · trivial
  | queued j t stored job named jobs queue files =>
    rw [stored] at hh ⊢
    obtain ⟨k, hk, hjk⟩ := hh
    exact ⟨k, jobs ▸ hk, hjk⟩
  | written j p bs ref taken makes path fits file others jobs queue =>
    rw [taken] at hh
    obtain ⟨k, hk, hjk⟩ := hh
    obtain ⟨-, n, hid⟩ := hw.named j.id k hk
    exact ⟨⟨k, jobs ▸ hk, hjk⟩, makes.isOf hid path, fits, file⟩

/-- The output of a completed job stays where it is. -/
theorem Does.isFiled (hw : w.Filed) (hh : w.Bears h) (hdoes : w.Does w' h h') {id : String} {j : Job}
    (hj : w.store.jobs.get? id = some j) (hstatus : j.status = .completed) : j.IsFiled w'.files := by
  obtain ⟨ref, bs, p, href, hmakes, hpath, hfits, hfile⟩ := hw.outputs id j hj hstatus
  obtain ⟨rfl, n, hid⟩ := hw.named id j hj
  refine ⟨ref, bs, p, href, hmakes, hpath, hfits,
    hdoes.hasFile hw hh (hmakes.isOf hid hpath) (fun j₀ hj₀ => ?_) hfile⟩
  exact hh.id_ne hj₀ hj (by rw [hstatus]; exact ⟨nofun, nofun⟩)

/-- **Every completed job has its output** after a fair command. -/
theorem Does.filed (hw : w.Filed) (hh : w.Bears h) (hdoes : w.Does w' h h') (hraces : w'.races = []) :
    w'.Filed := by
  have hkept {id : String} {j : Job} (hj : w.store.jobs.get? id = some j)
      (hstatus : j.status = .completed) : j.IsFiled w'.files := hdoes.isFiled hw hh hj hstatus
  have hqueued : ∀ p ∈ w.queue, ∃ t j, p = Task.payload t ∧ w'.store.jobs.get? t.job = some j ∧
      j.fileName = some t.fileName := by
    intro p hp
    obtain ⟨t, j, ht, hj, hnamed⟩ := hw.queued p hp
    obtain ⟨k, hk, hjk, -⟩ := hdoes.goesOn hj
    exact ⟨t, k, ht, hk, hjk.fileName.trans hnamed⟩
  have hsame (hjobs : w'.store.jobs = w.store.jobs) (hqueue : ∀ p ∈ w'.queue, ∃ t j,
      p = Task.payload t ∧ w'.store.jobs.get? t.job = some j ∧ j.fileName = some t.fileName) :
      w'.Filed :=
    ⟨hraces, fun id j hj => hw.named id j (hjobs ▸ hj), hqueue,
      fun id j hj hstatus => hkept (hjobs ▸ hj) hstatus⟩
  cases hdoes with
  | nothing jobs queue files => exact hsame jobs (queue ▸ hqueued)
  | written j p bs ref taken makes path fits file others jobs queue =>
    exact hsame jobs (queue ▸ hqueued)
  | queued j t stored job named jobs queue files =>
    refine hsame jobs fun p hp => ?_
    rw [queue] at hp
    rcases List.mem_append.mp hp with hp | hp
    · exact hqueued p hp
    · rw [stored] at hh
      obtain ⟨k, hk, hjk⟩ := hh
      exact ⟨t, k, List.mem_singleton.mp hp, jobs ▸ job ▸ hk, hjk.fileName.trans named⟩
  | created j fresh named status jobs queue files =>
    refine ⟨hraces, fun id k hk => ?_, queue ▸ hqueued, fun id k hk hstatus => ?_⟩
    · rcases Table.get?_set_cases (jobs ▸ hk) with ⟨rfl, rfl⟩ | ⟨-, hk⟩
      · exact ⟨rfl, named⟩
      · exact hw.named id k hk
    · rcases Table.get?_set_cases (jobs ▸ hk) with ⟨-, rfl⟩ | ⟨-, hk⟩
      · exact absurd hstatus status
      · exact hkept hk hstatus
  | moved i j k stored becomes move completed jobs queue files =>
    obtain ⟨hname, hnumber⟩ := hw.named i j stored
    refine ⟨hraces, fun id l hl => ?_, queue ▸ hqueued, fun id l hl hstatus => ?_⟩
    · rcases Table.get?_set_cases (jobs ▸ hl) with ⟨rfl, rfl⟩ | ⟨-, hl⟩
      · exact ⟨becomes.id.trans hname, hnumber⟩
      · exact hw.named id l hl
    · rcases Table.get?_set_cases (jobs ▸ hl) with ⟨rfl, rfl⟩ | ⟨-, hl⟩
      · -- the output was written before its job was completed
        obtain ⟨j₀, p, bs, ref, rfl, rfl, hmakes, hpath, href⟩ := completed hstatus
        obtain ⟨⟨k, hk, hjk, -⟩, -, hfits, hfile⟩ := hh
        obtain rfl := Option.some.inj (hk.symm.trans stored)
        exact ⟨ref, bs, p, href, hmakes.becomes (hjk.trans becomes), hpath, hfits, files ▸ hfile⟩
      · exact hkept hl hstatus

/-- Completed jobs stay as they are, and so do their outputs. -/
def Lasts (w w' : World) : Prop :=
  ∀ id j, w.store.jobs.get? id = some j → j.status = .completed →
    w'.store.jobs.get? id = some j ∧
      ∀ p bs, p.IsOf id → w.files.HasFile p bs → w'.files.HasFile p bs

theorem Lasts.refl (w : World) : w.Lasts w := fun _ _ hj _ => ⟨hj, fun _ _ _ hfile => hfile⟩

theorem Lasts.trans {u : World} (h : w.Lasts w') (g : w'.Lasts u) : w.Lasts u := by
  intro id j hj hstatus
  obtain ⟨hj', hfiles⟩ := h id j hj hstatus
  obtain ⟨hj'', hfiles'⟩ := g id j hj' hstatus
  exact ⟨hj'', fun p bs hp hfile => hfiles' p bs hp (hfiles p bs hp hfile)⟩

/-- **A completed job and its output outlast every fair command.** -/
theorem Does.lasts (hw : w.Filed) (hh : w.Bears h) (hdoes : w.Does w' h h') : w.Lasts w' := by
  intro id j hj hstatus
  have hapart (j₀ : Job) (hj₀ : h.job? = some j₀) : j₀.id ≠ id :=
    hh.id_ne hj₀ hj (by rw [hstatus]; exact ⟨nofun, nofun⟩)
  refine ⟨?_, fun p bs hp hfile => hdoes.hasFile hw hh hp hapart hfile⟩
  obtain ⟨k, hk, -, rfl | ⟨hmove, -⟩⟩ := hdoes.goesOn hj
  · exact hk
  · rw [JobStatus.canMove_of_isTerminal (by rw [hstatus]; rfl)] at hmove
    cases hmove

end World

end Sheetflow
