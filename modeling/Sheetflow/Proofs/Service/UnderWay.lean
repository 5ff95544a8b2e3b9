import Sheetflow.Proofs.Service.Delivery
import Sheetflow.Proofs.Service.Replies

/-!
# Jobs under way, whatever fails

A job that is under way ends in its record, and its slot is given back.  Here any
command may fail, on its own, and others may have moved or removed the record, so
that replies are arbitrary (`Service.Ends`).

The slot is given back once by every end of `Submission.execute`: giving back is
the only thing that touches the slots (`Service.Silent`), and it is tried whatever
came before.

Errors are let go in all places but one.  When the move to failed is refused, the
record is read once more, and nothing stands ready for that reading to fail
(`Submission.Lost`).  So an error gets out if a refused move is followed by a
reading that fails, and not otherwise (`under_way_ends`); and in a worker that
could not start its job the slot is not given back then.
-/

namespace Sheetflow

open Service

/-! ### Slots that are given back -/

/-- The organization for which a command gives back a slot. -/
def Command.released? : Command → Option String
  | .decrement (.active org) => some org
  | _ => none

/-- The organizations for which slots were given back, one for each time it was tried. -/
def released (log : List Exchange) : List String := log.filterMap fun x => x.command.released?

@[simp] theorem released_nil : released [] = [] := rfl

theorem released_append (before after : List Exchange) :
    released (before ++ after) = released before ++ released after := List.filterMap_append

namespace Service
variable {α β : Type}

/-- The service gives back no slot, however it ends. -/
def Silent (p : Service α) : Prop := ∀ log r, p.Ends log r → released log = []

theorem silent_pure (a : α) : Silent (pure a : Service α) := by
  intro log r h
  rw [h.of_pure.1, released_nil]

theorem silent_throw (e : ServiceError) : Silent (throw e : Service α) := by
  intro log r h
  rw [h.of_throw.1, released_nil]

theorem silent_result (q : Except ServiceError α) : Silent (result q) := by
  intro log r h
  rw [h.of_result.1, released_nil]

theorem silent_now : Silent now := by
  intro log r h
  rw [h.of_now.1, released_nil]

theorem silent_command {c : Command} (hc : c.released? = none) : Silent (command c) := by
  intro log r h
  obtain ⟨q, rfl, -⟩ := h.of_command
  exact List.filterMap_cons_none hc

theorem Silent.bind {p : Service α} (hp : Silent p) {f : α → Service β} (hf : ∀ a, Silent (f a)) :
    Silent (p >>= f) := by
  intro log r h
  obtain ⟨e, h, -⟩ | ⟨before, a, after, rfl, hbefore, hafter⟩ := h.of_bind
  · exact hp log _ h
  · rw [released_append, hp _ _ hbefore, hf a _ _ hafter, List.append_nil]

theorem Silent.attempt {p : Service α} (hp : Silent p) : Silent (attempt p) := by
  intro log r h
  obtain ⟨q, h, -⟩ := h.of_attempt
  exact hp log q h

end Service

namespace Jobs

theorem silent_move (id : String) (target : JobStatus) (fields : List JobField) :
    Silent (move id target fields) := by
  unfold move
  exact silent_now.bind fun _ => (silent_command rfl).bind fun _ => silent_result _

theorem silent_find? (id : String) (org : Option String) : Silent (find? id org) := by
  unfold find?
  exact (silent_command rfl).bind fun _ => silent_pure _

end Jobs

theorem Outputs.silent_save [Host] (org job name : String) (bs : Bytes) :
    Silent (save org job name bs) := by
  unfold save
  refine (silent_result _).bind fun p => (silent_command rfl).bind fun written => ?_
  cases written with
  | ok _ => exact silent_pure _
  | error e => exact silent_throw _

namespace Submission

theorem silent_markFailed (j : Job) (message : String) (log : Option Value) :
    Silent (markFailed j message log) := by
  unfold markFailed
  refine (Jobs.silent_move _ _ _).attempt.bind fun r => ?_
  cases r with
  | ok failed => exact silent_pure _
  | error e =>
    dsimp only
    split
    · exact (Jobs.silent_find? _ _).bind fun _ => silent_pure _
    · exact silent_now.bind fun _ => silent_pure _

theorem silent_deliver [Host] (j : Job) (c : Configuration) (fileName : String) (r : RunResult) :
    Silent (deliver j c fileName r) := by
  unfold deliver
  exact (Outputs.silent_save _ _ _ _).bind fun _ =>
    (Jobs.silent_move _ _ _).bind fun _ => silent_pure _

theorem silent_finish [Host] (j : Job) (c : Configuration) (fileName : String) (r : RunResult) :
    Silent (finish j c fileName r) := by
  unfold finish
  split
  · exact (silent_markFailed _ _ _).bind fun _ => silent_pure _
  · exact (silent_deliver _ _ _ _).bind fun _ => silent_pure _

theorem silent_carryOut [Host] (j : Job) (c : Configuration) (file : File) (fileName : String) :
    Silent (carryOut j c file fileName) := by
  unfold carryOut
  split
  · exact (silent_markFailed _ _ _).bind fun _ => silent_pure _
  · refine (silent_finish _ _ _ _).attempt.bind fun r => ?_
    cases r with
    | ok done => exact silent_pure _
    | error e => exact (silent_markFailed _ _ _).bind fun _ => silent_pure _

theorem silent_configurationFor (org id : String) : Silent (configurationFor org id) := by
  unfold configurationFor Configurations.find?
  refine ((silent_command rfl).bind fun _ => silent_pure _).bind fun found => ?_
  cases found with
  | none => exact silent_throw _
  | some c => exact silent_pure _

end Submission

theorem Task.silent_prepare (t : Task) : Silent t.prepare := by
  unfold prepare
  exact (Submission.silent_configurationFor _ _).bind fun _ =>
    (silent_result _).bind fun _ => silent_pure _

/-! ### Giving back -/

/-- A command to a count. -/
def Command.isCount : Command → Bool
  | .increment _ => true
  | .decrement _ => true
  | .resetCounter _ => true
  | .setLifetime _ _ => true
  | _ => false

/-- A unit is taken from the count first; more than setting it to zero does not come behind that. -/
theorem Quota.ends_giveBack {k : Counter} {log : List Exchange} {r : Except ServiceError Int}
    (h : (giveBack k).Ends log r) :
    ∃ q after, log = ⟨.decrement k, q⟩ :: after ∧ ∀ x ∈ after, x.command = .resetCounter k := by
  unfold giveBack at h
  obtain ⟨e, rfl, -⟩ | ⟨left, after, rfl, hafter⟩ := h.of_command_bind
  · exact ⟨_, [], rfl, List.forall_mem_nil _⟩
  · refine ⟨_, after, rfl, ?_⟩
    split at hafter
    · obtain ⟨e, rfl, -⟩ | ⟨u, last, rfl, hlast⟩ := hafter.of_command_bind
      · exact List.forall_mem_singleton.mpr rfl
      · rw [hlast.of_pure.1]
        exact List.forall_mem_singleton.mpr rfl
    · rw [hafter.of_pure.1]
      exact List.forall_mem_nil _

/-- What giving back a unit comes to in the log. -/
theorem released_giveBack {k : Counter} {log : List Exchange} {r : Except ServiceError Int}
    (h : (Quota.giveBack k).Ends log r) :
    released log = (Command.decrement k).released?.toList ∧ ∀ x ∈ log, x.command.isCount = true := by
  obtain ⟨q, after, rfl, hafter⟩ := Quota.ends_giveBack h
  have hsilent : released after = [] := by
    refine List.filterMap_eq_nil_iff.mpr fun x hx => ?_
    rw [hafter x hx]
    rfl
  refine ⟨?_, List.forall_mem_cons.mpr ⟨rfl, fun x hx => by rw [hafter x hx]; rfl⟩⟩
  rw [← List.singleton_append, released_append, hsilent, List.append_nil]
  cases hk : (Command.decrement k).released? with
  | none => exact List.filterMap_cons_none hk
  | some org => exact List.filterMap_cons_some hk

theorem Quota.ends_release {org : String} {log : List Exchange} {r : Except ServiceError Unit}
    (h : (release org).Ends log r) :
    released log = [org] ∧ ∀ x ∈ log, x.command.isCount = true := by
  unfold release at h
  obtain ⟨q, hback, -⟩ := h.of_bind_pure
  exact released_giveBack hback

/-- The unit of the month is another count. -/
theorem Quota.ends_refund {org : String} {log : List Exchange} {r : Except ServiceError Int}
    (h : (refund org).Ends log r) :
    released log = [] ∧ ∀ x ∈ log, x.command.isCount = true := by
  unfold refund at h
  obtain ⟨t, hback⟩ := h.of_now_bind
  exact released_giveBack hback

/-- **The slot is given back once**, and what goes wrong with that is let go. -/
theorem Submission.ends_giveBack {org : String} {completed : Bool} {log : List Exchange}
    {r : Except ServiceError Unit} (h : (giveBack org completed).Ends log r) :
    r = .ok () ∧ released log = [org] ∧ ∀ x ∈ log, x.command.isCount = true := by
  unfold giveBack at h
  obtain ⟨tried, q, last, rfl, htried, hlast⟩ := h.of_attempt_bind
  obtain ⟨rfl, rfl⟩ := hlast.of_pure
  rw [List.append_nil]
  refine ⟨rfl, ?_⟩
  obtain ⟨e, hrelease, -⟩ | ⟨before, n, after, rfl, hrelease, hafter⟩ := htried.of_bind
  · exact Quota.ends_release hrelease
  · obtain ⟨hslot, hbefore⟩ := Quota.ends_release hrelease
    have hrefund : released after = [] ∧ ∀ x ∈ after, x.command.isCount = true := by
      split at hafter
      · obtain ⟨q, hmonth, -⟩ := hafter.of_bind_pure
        exact Quota.ends_refund hmonth
      · rw [hafter.of_pure.1]
        exact ⟨released_nil, List.forall_mem_nil _⟩
    rw [released_append, hslot, hrefund.1]
    exact ⟨rfl, List.forall_mem_append.mpr ⟨hbefore, hrefund.2⟩⟩

/-! ### Records that are lost -/

/-- What a move came to. -/
def Jobs.settled : Except Fault (Except ServiceError Job) → Except ServiceError Job
  | .ok r => r
  | .error f => .error (.unavailable f)

theorem Jobs.ends_move {id : String} {target : JobStatus} {fields : List JobField}
    {log : List Exchange} {r : Except ServiceError Job} (h : (move id target fields).Ends log r) :
    ∃ update q, log = [⟨.updateJob id update, q⟩] ∧ r = settled q := by
  unfold move at h
  obtain ⟨t, h⟩ := h.of_now_bind
  obtain ⟨e, rfl, rfl⟩ | ⟨q, after, rfl, hafter⟩ := h.of_command_bind
  · exact ⟨_, _, rfl, rfl⟩
  · obtain ⟨rfl, rfl⟩ := hafter.of_result
    exact ⟨_, _, rfl, rfl⟩

theorem Jobs.ends_find? {id : String} {org : Option String} {log : List Exchange}
    {r : Except ServiceError (Option Job)} (h : (find? id org).Ends log r) :
    (∃ found, r = .ok found ∧ ∃ q, log = [⟨.getJob id, .ok q⟩]) ∨
      ∃ f, log = [⟨.getJob id, .error f⟩] ∧ r = .error (.unavailable f) := by
  unfold find? at h
  obtain ⟨f, rfl, rfl⟩ | ⟨found, after, rfl, hafter⟩ := h.of_command_bind
  · exact .inr ⟨f, rfl, rfl⟩
  · obtain ⟨rfl, rfl⟩ := hafter.of_pure
    exact .inl ⟨_, rfl, found, rfl⟩

namespace Submission

/-- The record of a job was lost from sight: a move was refused, which is an error that callers are told,
and then the record could not be read.  Nothing but commands to counts comes behind that. -/
inductive Lost (id : String) (f : Fault) : List Exchange → Prop
  | of (before after : List Exchange) (update : Option Job → Except ServiceError Job)
    (q : Except Fault (Except ServiceError Job)) (e : ServiceError) (refused : Jobs.settled q = .error e)
    (told : e.kind?.isSome = true) (counts : ∀ x ∈ after, x.command.isCount = true) :
    Lost id f (before ++ ⟨.updateJob id update, q⟩ :: ⟨.getJob id, .error f⟩ :: after)

theorem Lost.append_left {id : String} {f : Fault} {log : List Exchange} (h : Lost id f log)
    (more : List Exchange) : Lost id f (more ++ log) := by
  cases h with
  | of before after update q e refused told counts =>
    rw [← List.append_assoc]
    exact .of _ _ _ _ _ refused told counts

theorem Lost.append_right {id : String} {f : Fault} {log more : List Exchange} (h : Lost id f log)
    (hmore : ∀ x ∈ more, x.command.isCount = true) : Lost id f (log ++ more) := by
  cases h with
  | of before after update q e refused told counts =>
    rw [List.append_assoc, List.cons_append, List.cons_append]
    exact .of _ _ _ _ _ refused told (List.forall_mem_append.mpr ⟨counts, hmore⟩)

/-- The last that was said of the job is not that its record could not be read. -/
inductive Heard : List Exchange → Prop
  | of (before after : List Exchange) (x : Exchange) (about : x.command.isCount = false)
    (heard : ∀ id f, x ≠ ⟨.getJob id, .error f⟩) (counts : ∀ y ∈ after, y.command.isCount = true) :
    Heard (before ++ x :: after)

theorem Heard.append_left {log : List Exchange} (h : Heard log) (more : List Exchange) :
    Heard (more ++ log) := by
  cases h with
  | of before after x about heard counts =>
    rw [← List.append_assoc]
    exact .of _ _ x about heard counts

theorem Heard.append_right {log more : List Exchange} (h : Heard log)
    (hmore : ∀ x ∈ more, x.command.isCount = true) : Heard (log ++ more) := by
  cases h with
  | of before after x about heard counts =>
    rw [List.append_assoc, List.cons_append]
    exact .of _ _ x about heard (List.forall_mem_append.mpr ⟨counts, hmore⟩)

theorem heard_update (id : String) (update : Option Job → Except ServiceError Job)
    (q : Except Fault (Except ServiceError Job)) : Heard [⟨.updateJob id update, q⟩] :=
  .of [] [] _ rfl (fun _ _ h => nomatch h) (List.forall_mem_nil _)

/-- The last exchange that is about the job. -/
theorem getLast?_filter_isCount (before : List Exchange) {after : List Exchange} {x : Exchange}
    (hx : x.command.isCount = false) (hafter : ∀ y ∈ after, y.command.isCount = true) :
    ((before ++ x :: after).filter fun y => !y.command.isCount).getLast? = some x := by
  have hnone : after.filter (fun y => !y.command.isCount) = [] :=
    List.filter_eq_nil_iff.mpr fun y hy => by rw [hafter y hy]; decide
  rw [List.filter_append, List.filter_cons_of_pos (by rw [hx]; decide), hnone,
    List.getLast?_append, List.getLast?_singleton, Option.some_or]

/-- What was heard of is not lost. -/
theorem Heard.not_lost {log : List Exchange} (h : Heard log) (id : String) (f : Fault) :
    ¬ Lost id f log := by
  intro hlost
  cases h with
  | of before after x about heard counts =>
    have hx := getLast?_filter_isCount before about counts
    generalize hlog : before ++ x :: after = log at hlost hx
    cases hlost with
    | of before' after' update q e refused told counts' =>
      rw [← List.singleton_append, ← List.append_assoc,
        getLast?_filter_isCount _ (x := ⟨.getJob id, .error f⟩) rfl counts'] at hx
      exact heard id f (Option.some.inj hx).symm

/-- It ends with no error but that of a lost record, and with that one if the record was lost. -/
def Settles {α : Type} (id : String) (log : List Exchange) (r : Except ServiceError α) : Prop :=
  (∃ a, r = .ok a ∧ Heard log) ∨ ∃ f, r = .error (.unavailable f) ∧ Lost id f log

theorem Settles.map {α β : Type} {id : String} {log : List Exchange} {r : Except ServiceError α}
    (h : Settles id log r) (g : α → β) : Settles id log (r.map g) := by
  obtain ⟨a, rfl, hheard⟩ | ⟨f, rfl, hlost⟩ := h
  · exact .inl ⟨g a, rfl, hheard⟩
  · exact .inr ⟨f, rfl, hlost⟩

theorem Settles.append_left {α : Type} {id : String} {log : List Exchange}
    {r : Except ServiceError α} (h : Settles id log r) (more : List Exchange) :
    Settles id (more ++ log) r :=
  h.imp (fun ⟨a, hr, hheard⟩ => ⟨a, hr, hheard.append_left more⟩)
    fun ⟨f, hr, hlost⟩ => ⟨f, hr, hlost.append_left more⟩

theorem ends_markFailed {j : Job} {message : String} {l : Option Value} {log : List Exchange}
    {r : Except ServiceError Job} (h : (markFailed j message l).Ends log r) :
    Settles j.id log r := by
  unfold markFailed at h
  obtain ⟨before, moved, after, rfl, hmove, hafter⟩ := h.of_attempt_bind
  obtain ⟨update, q, rfl, rfl⟩ := Jobs.ends_move hmove
  have hmoved := heard_update j.id update q
  cases hq : Jobs.settled q with
  | ok failed =>
    rw [hq] at hafter
    obtain ⟨rfl, rfl⟩ := hafter.of_pure
    exact .inl ⟨_, rfl, hmoved⟩
  | error e =>
    rw [hq] at hafter
    dsimp only at hafter
    split at hafter
    · next htold =>
      obtain ⟨found, hread, rfl⟩ := hafter.of_bind_pure
      obtain ⟨k, rfl, q', rfl⟩ | ⟨f, rfl, rfl⟩ := Jobs.ends_find? hread
      · exact .inl ⟨_, rfl, .of [_] [] _ rfl (fun _ _ h => nomatch h) (List.forall_mem_nil _)⟩
      · exact .inr ⟨f, rfl, .of [] [] update q e hq htold (List.forall_mem_nil _)⟩
    · obtain ⟨t, hcopy⟩ := hafter.of_now_bind
      obtain ⟨rfl, rfl⟩ := hcopy.of_pure
      exact .inl ⟨_, rfl, hmoved⟩

variable [Host]

/-- The last that is said of a job that was completed is that it was. -/
theorem ends_deliver {j : Job} {c : Configuration} {fileName : String} {result : RunResult}
    {log : List Exchange} {out : JobOutcome}
    (h : (deliver j c fileName result).Ends log (.ok out)) : Heard log := by
  unfold deliver at h
  obtain ⟨e, -, he⟩ | ⟨before, ref, after, rfl, -, hafter⟩ := h.of_bind
  · cases he
  · obtain ⟨completed, hmove, -⟩ := hafter.of_bind_pure
    obtain ⟨update, q, rfl, -⟩ := Jobs.ends_move hmove
    exact (heard_update j.id update q).append_left before

theorem ends_finish {j : Job} {c : Configuration} {fileName : String} {result : RunResult}
    {log : List Exchange} {done : Bool × JobOutcome}
    (h : (finish j c fileName result).Ends log (.ok done)) : Heard log := by
  unfold finish at h
  split at h
  · obtain ⟨failed, hfailed, hdone⟩ := h.of_bind_pure
    obtain ⟨k, -, hheard⟩ | ⟨f, rfl, -⟩ := ends_markFailed hfailed
    · exact hheard
    · cases hdone
  · obtain ⟨out, hdeliver, hdone⟩ := h.of_bind_pure
    cases out with
    | ok out => exact ends_deliver hdeliver
    | error e => cases hdone

/-- Errors of a run and of its delivery are settled by marking the job as failed. -/
theorem ends_carryOut {j : Job} {c : Configuration} {file : File} {fileName : String}
    {log : List Exchange} {r : Except ServiceError (Bool × JobOutcome)}
    (h : (carryOut j c file fileName).Ends log r) : Settles j.id log r := by
  unfold carryOut at h
  split at h
  · obtain ⟨failed, hfailed, rfl⟩ := h.of_bind_pure
    exact (ends_markFailed hfailed).map _
  · obtain ⟨before, q, after, rfl, hfinish, hafter⟩ := h.of_attempt_bind
    cases q with
    | ok done =>
      obtain ⟨rfl, rfl⟩ := hafter.of_pure
      rw [List.append_nil]
      exact .inl ⟨done, rfl, ends_finish hfinish⟩
    | error e =>
      obtain ⟨failed, hfailed, rfl⟩ := hafter.of_bind_pure
      exact ((ends_markFailed hfailed).map _).append_left before

/-- **A job that is carried out** settles, and its slot is given back once. -/
theorem ends_execute {j : Job} {c : Configuration} {file : File} {fileName : String}
    {log : List Exchange} {r : Except ServiceError JobOutcome}
    (h : (execute j c file fileName).Ends log r) :
    released log = [j.organization] ∧ Settles j.id log r := by
  unfold execute at h
  obtain ⟨before, q, after, rfl, hbefore, hafter⟩ := h.of_attempt_bind
  have hsilent := silent_carryOut j c file fileName before q hbefore
  obtain ⟨⟨completed, outcome⟩, rfl, hheard⟩ | ⟨f, rfl, hlost⟩ := ends_carryOut hbefore
  · obtain ⟨u, hback, rfl⟩ := hafter.of_bind_pure
    obtain ⟨rfl, hslot, hcounts⟩ := ends_giveBack hback
    rw [released_append, hsilent, hslot]
    exact ⟨rfl, .inl ⟨outcome, rfl, hheard.append_right hcounts⟩⟩
  · obtain ⟨e, hback, -⟩ | ⟨back, u, last, rfl, hback, hlast⟩ := hafter.of_bind
    · cases (ends_giveBack hback).1
    · obtain ⟨-, hslot, hcounts⟩ := ends_giveBack hback
      obtain ⟨rfl, rfl⟩ := hlast.of_throw
      rw [List.append_nil, released_append, hsilent, hslot]
      exact ⟨rfl, .inr ⟨f, rfl, hlost.append_right hcounts⟩⟩

end Submission

namespace Task
open Submission

/-- How the work on a job ends that a worker has taken. -/
inductive Work (t : Task) (j : Job) (log : List Exchange) : Except ServiceError Report → Prop
  | carriedOut (k : Job) (heard : Heard log) (slot : released log = [j.organization]) :
    Work t j log (.ok (.carriedOut k))
  | notStarted (k : Job) (heard : Heard log) (slot : released log = [t.organization]) :
    Work t j log (.ok (.notStarted k))
  /-- The slot was given back if the job was carried out. -/
  | lost (f : Fault) (record : Lost j.id f log)
    (slot : released log = [j.organization] ∨ released log = []) :
    Work t j log (.error (.unavailable f))

theorem ends_carry [Host] {t : Task} {j : Job} {log : List Exchange}
    {r : Except ServiceError Report}
    (h : (t.carry j).Ends log r) : Work t j log r := by
  unfold carry at h
  obtain ⟨before, q, after, rfl, hbefore, hafter⟩ := h.of_attempt_bind
  have hsilent := t.silent_prepare before q hbefore
  cases q with
  | ok p =>
    obtain ⟨out, hexecute, rfl⟩ := hafter.of_bind_pure
    obtain ⟨hslot, hsettles⟩ := ends_execute hexecute
    have hreleased : released (before ++ after) = [j.organization] := by
      rw [released_append, hsilent, hslot, List.nil_append]
    obtain ⟨outcome, rfl, hheard⟩ | ⟨f, rfl, hlost⟩ := hsettles.append_left before
    · exact .carriedOut _ hheard hreleased
    · exact .lost f hlost (.inl hreleased)
  | error e =>
    obtain ⟨e', hfailed, rfl⟩ | ⟨first, failed, last, rfl, hfailed, hlast⟩ := hafter.of_bind
    · have hnone := silent_markFailed j e.message none after _ hfailed
      obtain ⟨k, hk, -⟩ | ⟨f, hf, hlost⟩ := ends_markFailed hfailed
      · cases hk
      · obtain rfl := Except.error.inj hf
        refine .lost f (hlost.append_left before) (.inr ?_)
        rw [released_append, hsilent, hnone, List.nil_append]
    · have hnone := silent_markFailed j e.message none first _ hfailed
      obtain ⟨k, -, hheard⟩ | ⟨f, hf, -⟩ := ends_markFailed hfailed
      · obtain ⟨u, hback, rfl⟩ := hlast.of_bind_pure
        obtain ⟨rfl, hslot, hcounts⟩ := ends_giveBack hback
        refine .notStarted _ ((hheard.append_right hcounts).append_left before) ?_
        rw [released_append, released_append, hsilent, hnone, hslot, List.nil_append,
          List.nil_append]
      · cases hf

/-- A worker that was told that the job moved has taken it. -/
theorem ends_process_of_taken [Host] {t : Task} {update : Option Job → Except ServiceError Job}
    {j : Job}
    {log : List Exchange} {r : Except ServiceError Report}
    (h : t.process.Ends (⟨.updateJob t.job update, .ok (.ok j)⟩ :: log) r) :
    (t.carry j).Ends log r := by
  unfold process at h
  obtain ⟨before, q, after, hlog, hmove, hafter⟩ := h.of_attempt_bind
  obtain ⟨update', q', rfl, rfl⟩ := Jobs.ends_move hmove
  obtain ⟨hfirst, rfl⟩ := List.cons.inj hlog
  cases hfirst
  exact hafter

end Task

/-- **Jobs under way, under every pattern of failures.**  Carrying out a job gives its slot back once,
and it ends with an outcome unless a refused move was followed by a reading of the record that failed;
then that failure gets out.  A worker that has taken its job reports on it under the same condition. -/
theorem under_way_ends [Host] (j : Job) (log : List Exchange) :
    (∀ (c : Configuration) (file : File) (fileName : String) (r : Except ServiceError JobOutcome),
      (Submission.execute j c file fileName).Ends log r →
        released log = [j.organization] ∧
          ((∃ outcome, r = .ok outcome) ∧ (∀ f, ¬ Submission.Lost j.id f log) ∨
            ∃ f, r = .error (.unavailable f) ∧ Submission.Lost j.id f log)) ∧
      ∀ (t : Task) (update : Option Job → Except ServiceError Job)
        (r : Except ServiceError Task.Report),
        t.process.Ends (⟨.updateJob t.job update, .ok (.ok j)⟩ :: log) r →
          (∃ k, r = .ok (.carriedOut k) ∧ released log = [j.organization]) ∧
              (∀ f, ¬ Submission.Lost j.id f log) ∨
            (∃ k, r = .ok (.notStarted k) ∧ released log = [t.organization]) ∧
              (∀ f, ¬ Submission.Lost j.id f log) ∨
            ∃ f, r = .error (.unavailable f) ∧ Submission.Lost j.id f log ∧
              (released log = [j.organization] ∨ released log = []) := by
  constructor
  · intro c file fileName r h
    obtain ⟨hslot, ⟨outcome, hr, hheard⟩ | hlost⟩ := Submission.ends_execute h
    · exact ⟨hslot, .inl ⟨⟨outcome, hr⟩, hheard.not_lost j.id⟩⟩
    · exact ⟨hslot, .inr hlost⟩
  · intro t update r h
    cases Task.ends_carry (Task.ends_process_of_taken h) with
    | carriedOut k heard slot => exact .inl ⟨⟨k, rfl, slot⟩, heard.not_lost j.id⟩
    | notStarted k heard slot => exact .inr (.inl ⟨⟨k, rfl, slot⟩, heard.not_lost j.id⟩)
    | lost f record slot => exact .inr (.inr ⟨f, rfl, record, slot⟩)

section
attribute [local instance] Host.bare

/-- A job that is under way is carried out, and so is one that a worker has taken, but not as far as a
run, since its configuration is not there.  Both times the slot is given back. -/
theorem under_way_ends_small_table :
    let s := Submission.smallTable
    let j := s.newJob "j" "c" .sync (.ofInstant 0)
    (∃ log outcome, (Submission.execute j .copying s.file s.fileName).Ends log (.ok outcome) ∧
        released log = ["o"]) ∧
      ∃ update log k, (s.task j).process.Ends (⟨.updateJob "j" update, .ok (.ok j)⟩ :: log)
          (.ok (.notStarted k)) ∧ released log = ["o"] := by
  intro s j
  let w : World := { clock := 0, store := { jobs := [("j", j)] } }
  have hw : w.Steady := ⟨rfl, List.forall_mem_nil _, rfl⟩
  have hj : w.store.jobs.get? j.id = some j := rfl
  constructor
  · have hexecute := Submission.exec_execute hw hj rfl .copying s.file s.fileName
    obtain ⟨log, hlog⟩ := exec_ends (Submission.execute j .copying s.file s.fileName) w
    rw [hexecute] at hlog
    exact ⟨log, _, hlog, ((under_way_ends j log).1 _ _ _ _ hlog).1⟩
  · have hcarry := Task.exec_carry (t := s.task j) hw hj rfl rfl
    obtain ⟨log, hlog⟩ := exec_ends ((s.task j).carry j) w
    rw [hcarry] at hlog
    let first : Exchange := ⟨.updateJob "j" (Jobs.next "j" .processing w.time []), .ok (.ok j)⟩
    have hprocess : (s.task j).process.Ends (first :: log) _ :=
      ⟨.now w.time (.call first.reply hlog.program)⟩
    refine ⟨_, log, _, hprocess, ?_⟩
    obtain ⟨⟨l, hl, -⟩, -⟩ | ⟨⟨l, -, hslot⟩, -⟩ | ⟨f, hf, -⟩ :=
      (under_way_ends j log).2 _ _ _ hprocess
    · cases hl
    · exact hslot
    · cases hf

/-- Somebody else moves the job to failed while it is completed, so that it can be moved no more, and
then the store does not answer. -/
theorem Submission.execute_loses_record :
    let j := smallTable.newJob "j" "c" .sync (.ofInstant 0)
    let down : Fault := ⟨"ConnectionError", none, "down"⟩
    let w : World :=
      { clock := 0, store := { jobs := [("j", j)] },
        races := [⟨"j", j.setAll [.status .failed]⟩],
        faults := [⟨.get, 3, 1, down⟩] }
    (exec (execute j .copying smallTable.file "table.csv") w).2 = .error (.unavailable down) := by
  intro j down w
  have herror : (match (exec (execute j .copying smallTable.file "table.csv") w).2 with
      | .error e => some e
      | .ok _ => none) = some (.unavailable down) := by decide +kernel
  generalize (exec (execute j .copying smallTable.file "table.csv") w).2 = r at herror ⊢
  cases r with
  | error e => exact congrArg Except.error (Option.some.inj herror)
  | ok out => cases herror

end

end Sheetflow
