import Sheetflow.Proofs.Service.Ending

/-!
# Records of jobs

What a record holds goes with its status: a job that waits has no times but that of its creation,
one that has ended has an output or a message, not both (`Job.Fits`), and its times are in order
(`Job.InOrder`).  The services write new records and move records that are stored, with the fields
that `Submission.Stage` lists.  Both keep records as they should be, and a record that is moved goes
on where it was (`Job.Recorded.moved`, `Submission.Stage.becomes`).
-/

namespace Sheetflow

/-- The moves that are allowed, one by one. -/
theorem JobStatus.canMove_iff (s t : JobStatus) :
    s.canMove t = true ↔
      (s = .pending ∧ (t = .processing ∨ t = .failed)) ∨
        (s = .processing ∧ (t = .completed ∨ t = .failed)) := by
  cases s <;> cases t <;> decide

namespace Job

/-- The record holds what its status says. -/
def Fits (j : Job) : Prop :=
  match j.status with
  | .pending =>
    j.startedAt = none ∧ j.completedAt = none ∧ j.errorMessage = none ∧ j.outputRef = none ∧
      j.log = none
  | .processing =>
    j.startedAt.isSome ∧ j.completedAt = none ∧ j.errorMessage = none ∧ j.outputRef = none ∧
      j.log = none
  | .completed =>
    j.startedAt.isSome ∧ j.completedAt.isSome ∧ j.outputRef.isSome ∧ j.log.isSome ∧
      j.errorMessage = none
  | .failed => j.completedAt.isSome ∧ j.errorMessage.isSome ∧ j.outputRef = none

/-- The times that are there are in order. -/
structure InOrder (j : Job) : Prop where
  started : ∀ s, j.startedAt = some s → j.createdAt.toInstant ≤ s.toInstant
  completed : ∀ c, j.completedAt = some c → j.createdAt.toInstant ≤ c.toInstant
  between : ∀ s c, j.startedAt = some s → j.completedAt = some c → s.toInstant ≤ c.toInstant

/-- One record goes on as another: what it was created with stays, the time of its start stays once
it is set, and a job that has ended stays all that it is. -/
structure Becomes (j k : Job) : Prop where
  id : k.id = j.id
  organization : k.organization = j.organization
  configuration : k.configuration = j.configuration
  fileName : k.fileName = j.fileName
  fileSize : k.fileSize = j.fileSize
  createdAt : k.createdAt = j.createdAt
  startedAt : j.startedAt.isSome → k.startedAt = j.startedAt
  final : j.status.isTerminal = true → k = j

namespace Becomes
variable {j k l : Job}

theorem refl (j : Job) : j.Becomes j := ⟨rfl, rfl, rfl, rfl, rfl, rfl, fun _ => rfl, fun _ => rfl⟩

theorem trans (h : j.Becomes k) (g : k.Becomes l) : j.Becomes l where
  id := g.id.trans h.id
  organization := g.organization.trans h.organization
  configuration := g.configuration.trans h.configuration
  fileName := g.fileName.trans h.fileName
  fileSize := g.fileSize.trans h.fileSize
  createdAt := g.createdAt.trans h.createdAt
  startedAt hs := (g.startedAt (h.startedAt hs ▸ hs)).trans (h.startedAt hs)
  final hs := by
    obtain rfl := h.final hs
    exact g.final hs

end Becomes

/-- A record as it should be at a moment: its times have passed. -/
structure Recorded (now : Instant) (j : Job) : Prop where
  fits : j.Fits
  inOrder : j.InOrder
  created : j.createdAt.toInstant ≤ now
  started : ∀ s, j.startedAt = some s → s.toInstant ≤ now

theorem Recorded.later {now now' : Instant} {j : Job} (h : j.Recorded now) (hle : now ≤ now') :
    j.Recorded now' :=
  ⟨h.fits, h.inOrder, Int.le_trans h.created hle, fun s hs => Int.le_trans (h.started s hs) hle⟩

end Job

namespace Submission

/-- The fields with which services move jobs: none when a job is taken, those of its end later. -/
inductive Stage : JobStatus → List JobField → Prop
  | taken : Stage .processing []
  | ended {target : JobStatus} {fields : List JobField} (h : Finish target fields) :
    Stage target fields

/-- A failure sets its message, and a log if there is one. -/
theorem moved_failed_eq (j : Job) (now : DateTime) (message : String) (log : Option Value) :
    j.moved .failed now (failureFields message log) =
      { j with status := .failed, completedAt := some now, errorMessage := some message,
               log := log.or j.log } := by
  cases log <;> rfl

theorem moved_completed_eq (j : Job) (now : DateTime) (ref : String) (log : Value) :
    j.moved .completed now [.outputRef (some ref), .log (some log)] =
      { j with status := .completed, completedAt := some now, outputRef := some ref,
               log := some log } := rfl

/-- **A record that is moved goes on where it was.** -/
theorem Stage.becomes {target : JobStatus} {fields : List JobField} (h : Stage target fields)
    {j : Job} (hmove : j.status.canMove target = true) (now : DateTime) :
    j.Becomes (j.moved target now fields) := by
  have hfinal : ¬ j.status.isTerminal = true := by
    intro ht
    rw [JobStatus.canMove_of_isTerminal ht] at hmove
    cases hmove
  cases h with
  | taken =>
    rw [Job.moved_processing]
    refine ⟨rfl, rfl, rfl, rfl, rfl, rfl, fun hs => ?_, fun ht => absurd ht hfinal⟩
    obtain ⟨s, hs⟩ := Option.isSome_iff_exists.mp hs
    rw [hs, Option.getD_some]
  | ended h =>
    cases h with
    | completed ref log =>
      exact ⟨rfl, rfl, rfl, rfl, rfl, rfl, fun _ => rfl, fun ht => absurd ht hfinal⟩
    | failed message log =>
      rw [moved_failed_eq]
      exact ⟨rfl, rfl, rfl, rfl, rfl, rfl, fun _ => rfl, fun ht => absurd ht hfinal⟩

theorem Stage.status_moved {target : JobStatus} {fields : List JobField} (h : Stage target fields)
    (j : Job) (now : DateTime) : (j.moved target now fields).status = target := by
  cases h with
  | taken => rw [Job.moved_processing]
  | ended h => exact (h.status_moved j now).1

end Submission

namespace Job

/-- A new record is as it should be. -/
theorem recorded_newJob (s : Submission) (id configuration : String) (mode : Mode) (now : DateTime) :
    (s.newJob id configuration mode now).Recorded now.toInstant := by
  cases mode with
  | queued =>
    exact ⟨⟨rfl, rfl, rfl, rfl, rfl⟩,
      ⟨fun s hs => (nomatch hs), fun c hc => (nomatch hc), fun s c hs => (nomatch hs)⟩,
      Int.le_refl _, fun s hs => (nomatch hs)⟩
  | sync =>
    have hstarted (t : DateTime) (h : (s.newJob id configuration .sync now).startedAt = some t) :
        t = now := (Option.some.inj h).symm
    exact ⟨⟨rfl, rfl, rfl, rfl, rfl⟩,
      ⟨fun t ht => hstarted t ht ▸ Int.le_refl _, fun c hc => (nomatch hc), fun s c _ hc => (nomatch hc)⟩,
      Int.le_refl _, fun t ht => hstarted t ht ▸ Int.le_refl _⟩

/-- A job whose record fits and that may fail or be completed has nothing of an end yet. -/
theorem Fits.not_ended {j : Job} (h : j.Fits) (hs : j.status.isTerminal = false) :
    j.completedAt = none ∧ j.errorMessage = none ∧ j.outputRef = none := by
  unfold Fits at h
  cases hj : j.status <;> rw [hj] at h hs
  · exact ⟨h.2.1, h.2.2.1, h.2.2.2.1⟩
  · exact ⟨h.2.1, h.2.2.1, h.2.2.2.1⟩
  · cases hs
  · cases hs

/-- Ending a job now keeps its times in order. -/
theorem Recorded.inOrder_ended {now : DateTime} {j : Job} (h : j.Recorded now.toInstant) {k : Job}
    (hcreated : k.createdAt = j.createdAt) (hstarted : k.startedAt = j.startedAt)
    (hcompleted : k.completedAt = some now) : k.InOrder := by
  have hnow (c : DateTime) (hc : k.completedAt = some c) : c = now := by
    rw [hcompleted] at hc
    exact (Option.some.inj hc).symm
  refine ⟨fun s hs => ?_, fun c hc => ?_, fun s c hs hc => ?_⟩
  · rw [hcreated]
    exact h.inOrder.started s (hstarted ▸ hs)
  · rw [hcreated, hnow c hc]
    exact h.created
  · rw [hnow c hc]
    exact h.started s (hstarted ▸ hs)

/-- **A record that is moved is as it should be.** -/
theorem Recorded.moved {now : DateTime} {j : Job} (h : j.Recorded now.toInstant)
    {target : JobStatus} {fields : List JobField} (hstage : Submission.Stage target fields)
    (hmove : j.status.canMove target = true) : (j.moved target now fields).Recorded now.toInstant := by
  have hlive : j.status.isTerminal = false := by
    cases hs : j.status.isTerminal with
    | false => rfl
    | true => rw [JobStatus.canMove_of_isTerminal hs] at hmove; cases hmove
  obtain ⟨hcompleted, hmessage, href⟩ := h.fits.not_ended hlive
  cases hstage with
  | taken =>
    have hpending : j.status = .pending := by simpa using (JobStatus.canMove_iff _ _).mp hmove
    have hfits := h.fits
    unfold Fits at hfits
    rw [hpending] at hfits
    obtain ⟨hstarted, -, -, -, hlog⟩ := hfits
    rw [Job.moved_processing, hstarted, Option.getD_none]
    have hnow (s : DateTime) (hs : some now = some s) : s = now := (Option.some.inj hs).symm
    refine ⟨⟨rfl, hcompleted, hmessage, href, hlog⟩, ⟨fun s hs => ?_, fun c hc => ?_, fun s c hs hc => ?_⟩,
      h.created, fun s hs => ?_⟩
    · exact hnow s hs ▸ h.created
    · exact absurd (hcompleted.symm.trans hc) (by simp)
    · exact absurd (hcompleted.symm.trans hc) (by simp)
    · exact hnow s hs ▸ Int.le_refl _
  | ended hfinish =>
    cases hfinish with
    | completed ref log =>
      have hprocessing : j.status = .processing := by
        simpa using (JobStatus.canMove_iff _ _).mp hmove
      have hfits := h.fits
      unfold Fits at hfits
      rw [hprocessing] at hfits
      rw [Submission.moved_completed_eq]
      exact ⟨⟨hfits.1, rfl, rfl, rfl, hmessage⟩, h.inOrder_ended rfl rfl rfl, h.created, h.started⟩
    | failed message log =>
      rw [Submission.moved_failed_eq]
      exact ⟨⟨rfl, rfl, href⟩, h.inOrder_ended rfl rfl rfl, h.created, h.started⟩

end Job

end Sheetflow
