import Sheetflow.Proofs.Service.Calls

/-!
# Slots

A job holds a slot of its organization from its admission to its end.  Slots are conserved: whatever
was called, as many are taken as there are jobs that wait or are under way, and they stay within the
limit (`World.slots_conserved`).  A delivery of a job that does not wait takes and returns nothing.
-/

namespace Sheetflow

open Service

namespace Job

/-- Does a job hold a slot of an organization? -/
def holdsSlot (org : String) (j : Job) : Bool :=
  j.organization = org ∧ (j.status = .pending ∨ j.status = .processing)

theorem holdsSlot_of_pending {j : Job} (h : j.status = .pending) (org : String) :
    j.holdsSlot org = decide (j.organization = org) := by
  simp [holdsSlot, h]

theorem holdsSlot_of_finish {target : JobStatus} {fields : List JobField}
    (h : Submission.Finish target fields) (j : Job) (now : DateTime) (org : String) :
    (j.moved target now fields).holdsSlot org = false := by
  rw [holdsSlot, (h.status_moved j now).1]
  obtain rfl | rfl := h.eq_completed_or_failed <;> simp

end Job

/-- How many stored jobs hold a slot of an organization. -/
def Store.slots (s : Store) (org : String) : Nat := s.countJobs (Job.holdsSlot org)

namespace World

/-- As many slots are taken as are held, and they are within the limit. -/
structure Slots (w : World) : Prop where
  taken : ∀ org, w.store.count (.active org) = w.store.slots org
  within : 0 < w.settings.concurrentLimit →
    ∀ org, w.store.count (.active org) ≤ w.settings.concurrentLimit

variable {w w' : World}

theorem slots_empty (settings : Settings) (start : Instant) : (empty settings start).Slots :=
  ⟨fun _ => rfl, fun h _ => Int.le_of_lt h⟩

/-- A step that adds nothing to the counts of slots keeps them within the limit. -/
theorem Slots.within_of_le (h : w.Slots) (hstep : w.Step w')
    (hle : ∀ org, w'.store.count (.active org) ≤ w.store.count (.active org)) :
    0 < w'.settings.concurrentLimit →
      ∀ org, w'.store.count (.active org) ≤ w'.settings.concurrentLimit := by
  intro hl org
  rw [hstep.settings] at hl ⊢
  exact Int.le_trans (hle org) (h.within hl org)

/-- **A step takes a slot for each job that begins to hold one** and returns it when the job ends. -/
theorem Slots.step (h : w.Slots) (hstep : w.Step w') : w'.Slots := by
  have hmonth (org : String) (t : DateTime) (org' : String) :
      Counter.active org' ≠ Quota.monthly org t := fun h => nomatch h
  cases hstep.effect with
  | quiet jobs queue counts =>
    refine ⟨fun org => ?_, h.within_of_le hstep fun org => Int.le_of_eq (counts _)⟩
    rw [counts, h.taken, Store.slots, Store.slots, Store.countJobs_congr jobs]
  | lapsed org since past jobs queue counts =>
    have hcount (org : String) : w'.store.count (.active org) = w.store.count (.active org) := by
      rw [counts, if_neg (hmonth _ _ _)]
    refine ⟨fun org => ?_, h.within_of_le hstep fun org => Int.le_of_eq (hcount org)⟩
    rw [hcount, h.taken, Store.slots, Store.slots, Store.countJobs_congr jobs]
  | queued s c new jobs queue counts within =>
    have hcount (org : String) : w'.store.count (.active org) =
        w.store.count (.active org) + if s.organization = org then 1 else 0 := by
      rw [counts]
      simp only [hmonth, or_false, Counter.active.injEq, eq_comm]
    have hslots (org : String) : w'.store.slots org =
        w.store.slots org + if s.organization = org then 1 else 0 := by
      have := Store.countJobs_of_new new jobs (Job.holdsSlot org)
      rw [Job.holdsSlot_of_pending rfl] at this
      simp only [decide_eq_true_eq] at this
      exact this
    refine ⟨fun org => ?_, fun hl org => ?_⟩
    · rw [hcount, hslots, h.taken]
      split <;> rfl
    · rw [hstep.settings] at hl ⊢
      by_cases horg : s.organization = org
      · rw [← horg]
        exact within hl
      · rw [hcount, if_neg horg, Int.add_zero]
        exact h.within hl org
  | ended s c mode e finish new jobs queue counts =>
    have hcount (org : String) : w'.store.count (.active org) = w.store.count (.active org) := by
      rw [counts, if_neg fun hc => hmonth _ _ _ hc.1, Int.add_zero]
    have hslots (org : String) : w'.store.slots org = w.store.slots org := by
      have := Store.countJobs_of_new new jobs (Job.holdsSlot org)
      rwa [Job.holdsSlot_of_finish finish, if_neg Bool.false_ne_true, Nat.add_zero] at this
    refine ⟨fun org => ?_, h.within_of_le hstep fun org => Int.le_of_eq (hcount org)⟩
    rw [hcount, hslots, h.taken]
  | carried j e finish stored pending jobs queue counts =>
    have hcount (org : String) : w'.store.count (.active org) =
        if j.organization = org then max (w.store.count (.active org) - 1) 0
        else w.store.count (.active org) := by
      rw [counts]
      simp only [hmonth, false_and, or_false, Counter.active.injEq, eq_comm]
    have hslots (org : String) : w'.store.slots org + (if j.organization = org then 1 else 0) =
        w.store.slots org := by
      have := Store.countJobs_of_stored stored jobs (Job.holdsSlot org)
      rw [Job.holdsSlot_of_pending pending, Job.holdsSlot_of_finish finish] at this
      simp only [decide_eq_true_eq, if_neg Bool.false_ne_true, Nat.add_zero] at this
      exact this
    refine ⟨fun org => ?_, h.within_of_le hstep fun org => ?_⟩
    · have := hslots org
      rw [hcount, h.taken]
      by_cases horg : j.organization = org
      · rw [if_pos horg] at this ⊢
        omega
      · rw [if_neg horg] at this ⊢
        omega
    · have := h.taken org
      rw [hcount]
      split <;> omega

/-- **Slots are conserved** over any calls from the empty world on: the usage of every organization
shows as many jobs under way as there are that wait or are carried out, never more than a limit
allows; and each queued payload is that of a stored job, whose delivery is skipped and changes
nothing unless the job waits. -/
theorem slots_conserved [Host] (settings : Settings) (start : Instant) (cs : List Call) :
    let w := (empty settings start).calls cs
    (∀ org, ∃ u, exec (Quota.usage settings org) w = (w, .ok u) ∧
      u.active = w.store.countJobs (fun j =>
        j.organization = org ∧ (j.status = .pending ∨ j.status = .processing)) ∧
      (0 < settings.concurrentLimit → u.active ≤ settings.concurrentLimit)) ∧
    ∀ payload ∈ w.queue, ∃ t j, Task.ofPayload payload = .ok t ∧
      w.store.jobs.get? t.job = some j ∧
      (j.status ≠ .pending → exec (Task.processPayload payload) w = (w, .ok (.skipped t.job))) := by
  intro w
  obtain ⟨hsound, hsettings, hslots⟩ := calls_induction (P := Slots) (slots_empty settings start)
    (fun _ _ _ _ h hstep => h.step hstep) cs
  refine ⟨fun org => ?_, fun payload hp => ?_⟩
  · have hwithin := hslots.within
    rw [hsettings] at hwithin
    exact ⟨_, Quota.exec_usage hsound.steady settings org, hslots.taken org, fun hl => hwithin hl org⟩
  · obtain ⟨t, j, rfl, hj, -⟩ := hsound.queued payload hp
    refine ⟨_, j, Task.ofPayload_payload t, hj, fun hs => ?_⟩
    rw [Task.exec_processPayload]
    exact Task.exec_process_of_taken hsound.steady hj hs

section
attribute [local instance] Host.bare

/-- Where there is one slot, one of two submissions is admitted; when its job has ended the slot is
free, and its payload is skipped from then on. -/
theorem slots_conserved_one_slot :
    let limit : Settings := { concurrentLimit := 1 }
    let cs : List Call := [.save .copying, .submit .smallTable, .submit .smallTable]
    let w := (empty limit 0).calls cs
    let w' := (empty limit 0).calls (cs ++ [.deliver 0])
    (∃ u, exec (Quota.usage limit "o") w = (w, .ok u) ∧ u.active = 1 ∧ u.active ≤ 1) ∧
      (∃ u, exec (Quota.usage limit "o") w' = (w', .ok u) ∧ u.active = 0) ∧
      ∃ payload ∈ w'.queue, ∃ id,
        exec (Task.processPayload payload) w' = (w', .ok (.skipped id)) := by
  intro limit cs w w'
  obtain ⟨hbefore, -⟩ := slots_conserved limit 0 cs
  obtain ⟨hafter, hskipped⟩ := slots_conserved limit 0 (cs ++ [.deliver 0])
  obtain ⟨u, hu, hactive, hwithin⟩ := hbefore "o"
  obtain ⟨u', hu', hactive', -⟩ := hafter "o"
  have hslots : w.store.countJobs (fun j =>
      j.organization = "o" ∧ (j.status = .pending ∨ j.status = .processing)) = 1 := by decide +kernel
  have hslots' : w'.store.countJobs (fun j =>
      j.organization = "o" ∧ (j.status = .pending ∨ j.status = .processing)) = 0 := by decide +kernel
  have hqueue : 0 < w'.queue.length := by decide +kernel
  have hended : ∀ e ∈ ((empty limit 0).calls (cs ++ [.deliver 0])).store.jobs,
      e.2.status ≠ .pending := by decide +kernel
  obtain ⟨t, j, -, hj, hskip⟩ := hskipped w'.queue[0] (List.getElem_mem hqueue)
  have hstored := Table.mem_of_get? hj
  rw [hslots] at hactive
  rw [hslots'] at hactive'
  exact ⟨⟨u, hu, hactive, hwithin (by decide)⟩, ⟨u', hu', hactive'⟩,
    w'.queue[0], List.getElem_mem hqueue, t.job, hskip (hended _ hstored)⟩

end

end World

end Sheetflow
