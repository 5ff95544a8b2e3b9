import Sheetflow.Proofs.Service.Exec
import Sheetflow.Service.Submission

/-!
# How jobs under way fail

A job that cannot be completed is marked as failed, with a message.  As long as
nobody else writes to the job, the message reaches the caller: either the record
is replaced, or a command to the store fails and a copy of the job is marked
(`exec_markFailed`).  So a run that was aborted ends with the reason of the abort
(`exec_execute_of_aborted`).
-/

namespace Sheetflow

open Service

/-- Nobody else writes to jobs, and what is planned to go wrong are failures of the store. -/
structure World.OnlyFails (w : World) : Prop where
  races : w.races = []
  faults : ∀ f ∈ w.faults.map PlannedFault.fault, f.kind = none

namespace Jobs

/-- A job under way that is moved to failed is stored so, unless a command fails. -/
theorem exec_move_failed {w : World} (hw : w.OnlyFails) {id : String} {j : Job}
    (hj : w.store.jobs.get? id = some j) (hs : j.status = .processing) (fields : List JobField) :
    (exec (move id .failed fields) w).2 = .ok (j.moved .failed w.time fields) ∨
      ∃ f, f.kind = none ∧ (exec (move id .failed fields) w).2 = .error (.unavailable f) := by
  have hnext : next id .failed w.time fields (w.store.jobs.get? id) =
      .ok (j.moved .failed w.time fields) := by
    rw [hj, next, hs, if_pos (by decide)]
  have hperform : w.perform (.updateJob id (next id .failed w.time fields)) =
      World.updateJob id (next id .failed w.time fields) [] w := by
    rw [World.perform, hw.races]
  rw [move, exec_bind_of_ok (exec_now w)]
  rcases World.updateJob_of_ok hnext with h | ⟨f, hf, h⟩
  · refine .inl (congrArg Prod.snd (exec_command_bind_of_ok (hperform ▸ h) _))
  · refine .inr ⟨f, hw.faults f hf, ?_⟩
    exact congrArg Prod.snd (exec_command_bind_of_error (hperform ▸ h) _)

end Jobs

namespace Submission

theorem errorMessage_moved_failed (j : Job) (now : DateTime) (message : String)
    (log : Option Value) :
    (j.moved .failed now (failureFields message log)).errorMessage = some message := by
  cases log <;> rfl

theorem exec_markFailed {w : World} (hw : w.OnlyFails) {j k : Job}
    (hk : w.store.jobs.get? j.id = some k) (hs : k.status = .processing) (message : String)
    (log : Option Value) :
    ∃ w' failed, exec (markFailed j message log) w = (w', .ok failed) ∧
      failed.errorMessage = some message := by
  rw [markFailed, exec_bind_of_ok (exec_attempt _ w)]
  rcases Jobs.exec_move_failed hw hk hs (failureFields message log) with h | ⟨f, hf, h⟩
  · rw [h]
    exact ⟨_, _, rfl, errorMessage_moved_failed k _ message log⟩
  · rw [h]
    have hkind : (ServiceError.unavailable f).kind?.isSome = false := by
      rw [ServiceError.kind?, hf]
      rfl
    simp only [hkind, Bool.false_eq_true, if_false]
    refine ⟨_, _, rfl, ?_⟩
    cases log <;> rfl

theorem exec_giveBack (org : String) (completed : Bool) (w : World) :
    ∃ w', exec (giveBack org completed) w = (w', .ok ()) := by
  rw [giveBack, exec_bind_of_ok (exec_attempt _ w)]
  exact ⟨_, rfl⟩

/-- **A job whose run was aborted fails with the reason of the abort**, whatever goes wrong with the
store on the way. -/
theorem exec_execute_of_aborted [Host] {w : World} (hw : w.OnlyFails) {j k : Job}
    (hk : w.store.jobs.get? j.id = some k) (hs : k.status = .processing) {c : Configuration}
    {file : File} {fileName : String} {r : RunResult} (hr : c.transform file fileName = .ok r)
    (ha : r.aborted = true) :
    ∃ w' failed, exec (execute j c file fileName) w = (w', .ok ⟨failed, some r, none⟩) ∧
      failed.errorMessage = some ("Transformation aborted: " ++ r.abortReason) := by
  obtain ⟨w1, failed, h1, hm⟩ := exec_markFailed hw hk hs
    ("Transformation aborted: " ++ r.abortReason) (some (r.log []))
  have hfinish : exec (finish j c fileName r) w = (w1, .ok (false, ⟨failed, some r, none⟩)) := by
    rw [finish, if_pos ha, exec_bind_of_ok h1, exec_pure]
  have hcarry : exec (carryOut j c file fileName) w =
      (w1, .ok (false, ⟨failed, some r, none⟩)) := by
    unfold carryOut
    rw [hr]
    show exec (attempt (finish j c fileName r) >>= _) w = _
    rw [exec_bind_of_ok (exec_attempt _ w), hfinish, exec_pure]
  obtain ⟨w2, h2⟩ := exec_giveBack j.organization false w1
  refine ⟨w2, failed, ?_, hm⟩
  rw [execute, exec_bind_of_ok (exec_attempt _ w), hcarry, exec_bind_of_ok h2, exec_pure]

end Submission

end Sheetflow
