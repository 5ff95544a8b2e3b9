import Mathlib.Data.List.Chain
import Mathlib.Data.List.Nodup
import Mathlib.Logic.Function.Basic
import Sheetflow.Proofs.Job.Record

/-!
# Moves of one job at the same time

A call that moves a job watches the record, reads it, and writes the next record, but only if nobody
has written the job since it was watched; else it starts again.  A `Contest` is any number of such
calls on one job, which take their steps in any order.  In a contest every record that is written is
the one before it, moved as one call asked for: no call writes over what it has not seen
(`Contest.moves_take_turns`).  So the job is taken once and ended once.

`World.updateJob_follows` says that a call in a world, where others write to the job in between, takes
just these steps.
-/

namespace Sheetflow

/-- Where a call stands that replaces a job.  Versions count how often the job has been written. -/
inductive Phase where
  | idle
  /-- The job is watched from a version on. -/
  | watching (version : Nat)
  /-- The job was read, and this is to replace it. -/
  | prepared (version : Nat) (next : Job)
  | ended (reply : Except ServiceError Job)

/-- The next step of a call: where it stands then, and the record it writes, if it does. -/
def Phase.step (update : Option Job → Except ServiceError Job) (stored : Option Job) (version : Nat) :
    Phase → Phase × Option Job
  | .idle => (.watching version, none)
  | .watching v =>
    match update stored with
    | .error e => (.ended (.error e), none)
    | .ok j => (.prepared v j, none)
  | .prepared v j => if v = version then (.ended (.ok j), some j) else (.idle, none)
  | .ended r => (.ended r, none)

/-- What a call asks for: the status to move to, with fields, at a time. -/
structure Move where
  target : JobStatus
  fields : List JobField
  now : DateTime

/-- The job that a stored one becomes. -/
def Move.next (m : Move) (j : Job) : Job := j.moved m.target m.now m.fields

/-- Calls that move one job. -/
structure Contest where
  id : String
  first : Job
  moves : List Move
  /-- Where each call stands. -/
  phase : Nat → Phase
  /-- Which call wrote which record, in the order in which they were written. -/
  written : List (Nat × Job)

namespace Contest

/-- Before any call has taken a step. -/
def start (id : String) (first : Job) (moves : List Move) : Contest :=
  { id, first, moves, phase := fun _ => .idle, written := [] }

/-- The records that were stored one after the other. -/
def records (c : Contest) : List Job := c.first :: c.written.map Prod.snd

/-- The record that is stored. -/
def stored (c : Contest) : Job := (c.written.getLast?.map Prod.snd).getD c.first

/-- One call takes a step. -/
def step (c : Contest) (i : Nat) : Contest :=
  match c.moves[i]? with
  | none => c
  | some m =>
    let (phase, write) :=
      (c.phase i).step (Jobs.next c.id m.target m.now m.fields) (some c.stored) c.written.length
    { c with
      phase := Function.update c.phase i phase
      written := c.written ++ (write.map fun j => (i, j)).toList }

/-- The calls take steps in some order. -/
def run (c : Contest) (schedule : List Nat) : Contest := schedule.foldl step c

end Contest

/-! ### One call among others -/

namespace World

/-- What one call comes to while others write to the job: the record that is stored in the end, and
the reply. -/
inductive Alongside (update : Option Job → Except ServiceError Job) :
    Option Job → Nat → Phase → Option Job → Except ServiceError Job → Prop
  | ended (stored : Option Job) (version : Nat) (r : Except ServiceError Job) :
    Alongside update stored version (.ended r) stored r
  | step {stored stored' : Option Job} {version : Nat} {phase phase' : Phase}
    {r : Except ServiceError Job} (h : phase.step update stored version = (phase', none))
    (rest : Alongside update stored version phase' stored' r) :
    Alongside update stored version phase stored' r
  | write {stored stored' : Option Job} {version : Nat} {phase phase' : Phase} {j : Job}
    {r : Except ServiceError Job} (h : phase.step update stored version = (phase', some j))
    (rest : Alongside update (some j) (version + 1) phase' stored' r) :
    Alongside update stored version phase stored' r
  | other {stored stored' : Option Job} {version : Nat} {phase : Phase}
    {r : Except ServiceError Job} (written : Option Job)
    (rest : Alongside update written (version + 1) phase stored' r) :
    Alongside update stored version phase stored' r

/-- **Replacing a job in a world** takes the steps of a call, also where others write in between. -/
theorem updateJob_follows (id : String) (update : Option Job → Except ServiceError Job)
    (races : List Race) {w : World} (hfaults : w.faults = []) (hconnected : w.connected = true)
    (version : Nat) :
    ∃ w' r, updateJob id update races w = (w', .ok r) ∧
      Alongside update (w.store.jobs.get? id) version .idle (w'.store.jobs.get? id) r := by
  have hattempt {ρ : Type} {w : World} (hfaults : w.faults = []) (hconnected : w.connected = true)
      (op : Operation) (act : World → World × Except Fault ρ) : w.attempt op act = act w :=
    attempt_of_forall_ne (hfaults ▸ fun _ hf => (nomatch hf)) hconnected act
  -- reading an update that is refused ends the call
  have hrefused {w : World} {e : ServiceError} (version : Nat)
      (he : update (w.store.jobs.get? id) = .error e) :
      Alongside update (w.store.jobs.get? id) version .idle (w.store.jobs.get? id) (.error e) := by
    have hread : (Phase.watching version).step update (w.store.jobs.get? id) version =
        (.ended (.error e), none) := by simp only [Phase.step, he]
    exact .step rfl (.step hread (.ended _ _ _))
  have hread {stored : Option Job} {version : Nat} {j : Job} (hj : update stored = .ok j) :
      (Phase.watching version).step update stored version = (.prepared version j, none) := by
    simp only [Phase.step, hj]
  induction races generalizing w version with
  | nil =>
    rw [updateJob, hattempt hfaults hconnected, hattempt hfaults hconnected]
    cases hj : update (w.store.jobs.get? id) with
    | error e => exact ⟨w, .error e, rfl, hrefused version hj⟩
    | ok j =>
      have hwrite : (Phase.prepared version j).step update (w.store.jobs.get? id) version =
          (.ended (.ok j), some j) := by simp only [Phase.step, if_true]
      refine ⟨_, .ok j, hattempt hfaults hconnected _ _, .step rfl (.step (hread hj) (.write hwrite ?_))⟩
      rw [withStore_store, Table.get?_set_self]
      exact .ended _ _ _
  | cons race races ih =>
    rw [updateJob, hattempt hfaults hconnected, hattempt hfaults hconnected]
    cases hj : update (w.store.jobs.get? id) with
    | error e => exact ⟨w, .error e, rfl, hrefused version hj⟩
    | ok j =>
      -- the write of someone else comes before that of the call, which starts again
      obtain ⟨w', r, hw', halong⟩ :=
        @ih { w.applyRace race with races } hfaults hconnected (version + 1)
      have hagain : (Phase.prepared version j).step update
          ((w.applyRace race).store.jobs.get? id) (version + 1) = (.idle, none) := by
        simp only [Phase.step, if_neg (Nat.succ_ne_self version).symm]
      exact ⟨w', r, (hattempt hfaults hconnected _ _).trans hw',
        .step rfl (.step (hread hj) (.other _ (.step hagain halong)))⟩

end World

/-! ### Contests -/

/-- A job has the status that it was moved to, whatever fields are set. -/
theorem Job.status_moved (j : Job) (target : JobStatus) (now : DateTime) (fields : List JobField) :
    (j.moved target now fields).status = target := by
  unfold moved moveFields setAll
  rw [List.foldl_append, List.foldl_append, List.foldl_append]
  split <;> split <;> rfl

/-- How far the status is on its way; every move goes further. -/
def JobStatus.rank : JobStatus → Nat
  | .pending => 0
  | .processing => 1
  | _ => 2

theorem JobStatus.rank_lt {s t : JobStatus} (h : s.canMove t = true) : s.rank < t.rank := by
  cases s <;> cases t <;> first | (exact absurd h (by decide)) | decide

theorem JobStatus.rank_of_isTerminal {s : JobStatus} (h : s.isTerminal = true) : s.rank = 2 := by
  cases s <;> first | rfl | cases h

namespace Contest
variable {c : Contest} {i : Nat}

theorem getElem?_records (c : Contest) : c.records[c.written.length]? = some c.stored := by
  unfold records stored
  rw [List.getElem?_cons]
  split
  · rename_i h
    rw [List.eq_nil_of_length_eq_zero h]
    rfl
  · rw [List.getElem?_map, List.getLast?_eq_getElem?]
    cases h : c.written[c.written.length - 1]? with
    | none => exact absurd (List.getElem?_eq_none_iff.mp h) (by omega)
    | some e => rfl

theorem getLast?_records (c : Contest) : c.records.getLast? = some c.stored := by
  rw [List.getLast?_eq_getElem?, ← c.getElem?_records]
  simp [records]

theorem stored_mem_records (c : Contest) : c.stored ∈ c.records :=
  List.mem_of_getElem? c.getElem?_records

/-- The contest after a step in which nothing is written. -/
def stands (c : Contest) (i : Nat) (p : Phase) : Contest :=
  { c with phase := Function.update c.phase i p }

/-- The contest after a call has written a record. -/
def writes (c : Contest) (i : Nat) (j : Job) : Contest :=
  { c with phase := Function.update c.phase i (.ended (.ok j)), written := c.written ++ [(i, j)] }

theorem records_writes (c : Contest) (i : Nat) (j : Job) :
    (c.writes i j).records = c.records ++ [j] := by
  simp [writes, records]

/-- **What a step can do.** -/
inductive StepCases (c : Contest) (i : Nat) : Contest → Prop
  | none : StepCases c i c
  | watch (h : c.phase i = .idle) : StepCases c i (c.stands i (.watching c.written.length))
  | refuse (m : Move) (v : Nat) (hm : c.moves[i]? = some m) (h : c.phase i = .watching v)
    (hmove : c.stored.status.canMove m.target = false) :
    StepCases c i
      (c.stands i (.ended (.error (.moveRefused c.id (some c.stored.status) m.target))))
  | prepare (m : Move) (v : Nat) (hm : c.moves[i]? = some m) (h : c.phase i = .watching v)
    (hmove : c.stored.status.canMove m.target = true) :
    StepCases c i (c.stands i (.prepared v (m.next c.stored)))
  | again (v : Nat) (j : Job) (h : c.phase i = .prepared v j) (hv : v ≠ c.written.length) :
    StepCases c i (c.stands i .idle)
  | write (v : Nat) (j : Job) (h : c.phase i = .prepared v j) (hv : v = c.written.length) :
    StepCases c i (c.writes i j)

theorem step_cases (c : Contest) (i : Nat) : StepCases c i (c.step i) := by
  unfold step
  cases hm : c.moves[i]? with
  | none => exact .none
  | some m =>
    cases h : c.phase i with
    | idle =>
      simp only [Phase.step, Option.map_none, Option.toList_none, List.append_nil]
      exact .watch h
    | watching v =>
      by_cases hmove : c.stored.status.canMove m.target = true
      · simp only [Phase.step, Jobs.next, hmove, if_true, Option.map_none, Option.toList_none,
          List.append_nil]
        exact .prepare m v hm h hmove
      · have hmove := Bool.eq_false_iff.mpr hmove
        simp only [Phase.step, Jobs.next, hmove, Bool.false_eq_true, if_false, Option.map_none,
          Option.toList_none, List.append_nil]
        exact .refuse m v hm h hmove
    | prepared v j =>
      by_cases hv : v = c.written.length
      · simp only [Phase.step, hv, if_true, Option.map_some, Option.toList_some]
        exact .write v j h hv
      · simp only [Phase.step, hv, if_false, Option.map_none, Option.toList_none, List.append_nil]
        exact .again v j h hv
    | ended r =>
      simp only [Phase.step, Option.map_none, Option.toList_none, List.append_nil]
      rw [← h, Function.update_eq_self]
      exact .none

/-- What a call knows where it stands: a record that it prepared is the next one of that stored, unless
the job has been written since the call watched it. -/
def Knows (c : Contest) (i : Nat) : Phase → Prop
  | .idle => True
  | .watching v => v ≤ c.written.length
  | .prepared v j =>
    v ≤ c.written.length ∧
      (v = c.written.length → ∃ m, c.moves[i]? = some m ∧
        c.stored.status.canMove m.target = true ∧ j = m.next c.stored)
  | .ended (.ok j) => (i, j) ∈ c.written
  | .ended (.error e) =>
    ∃ m r, c.moves[i]? = some m ∧ r ∈ c.records ∧ r.status.canMove m.target = false ∧
      e = .moveRefused c.id (some r.status) m.target

/-- What holds at all times of a contest. -/
structure Fair (c : Contest) : Prop where
  made : ∀ (k i : Nat) (j : Job), c.written[k]? = some (i, j) →
    ∃ (m : Move) (r : Job), c.moves[i]? = some m ∧ c.records[k]? = some r ∧
      r.status.canMove m.target = true ∧ j = m.next r
  once : (c.written.map Prod.fst).Nodup
  ended : ∀ i j, (i, j) ∈ c.written → c.phase i = .ended (.ok j)
  knows : ∀ i, c.Knows i (c.phase i)

theorem fair_start (id : String) (first : Job) (moves : List Move) :
    (start id first moves).Fair :=
  ⟨fun _ _ _ h => (nomatch h), .nil, fun _ _ h => (nomatch h), fun _ => trivial⟩

/-- A step that writes nothing keeps a contest fair. -/
theorem Fair.stands (h : c.Fair) (hi : ∀ r, c.phase i ≠ .ended r) {p : Phase} (hp : c.Knows i p) :
    (c.stands i p).Fair := by
  refine ⟨h.made, h.once, fun k j hk => ?_, fun k => ?_⟩
  · have hne : k ≠ i := fun hki => hi _ (hki ▸ h.ended k j hk)
    exact (Function.update_of_ne hne _ _).trans (h.ended k j hk)
  · by_cases hk : k = i
    · rw [hk]
      show c.Knows i (Function.update c.phase i p i)
      rw [Function.update_self]
      exact hp
    · show c.Knows k (Function.update c.phase i p k)
      rw [Function.update_of_ne hk]
      exact h.knows k

/-- What a call knows stays so when another one writes. -/
theorem Knows.writes {k : Nat} {p : Phase} (h : c.Knows k p) (i : Nat) (j : Job) :
    (c.writes i j).Knows k p := by
  have hlength : (c.writes i j).written.length = c.written.length + 1 := by
    rw [Contest.writes, List.length_append, List.length_singleton]
  cases p with
  | idle => trivial
  | watching v =>
    have hv : v ≤ c.written.length := h
    show v ≤ (c.writes i j).written.length
    omega
  | prepared v l =>
    have hv := h.1
    refine ⟨by omega, fun hv' => ?_⟩
    omega
  | ended r =>
    cases r with
    | ok l => exact List.mem_append_left _ h
    | error e =>
      obtain ⟨m, r, hm, hr, hmove, he⟩ := h
      exact ⟨m, r, hm, c.records_writes i j ▸ List.mem_append_left _ hr, hmove, he⟩

/-- **A record is only written over that from which it was made.** -/
theorem Fair.writes (h : c.Fair) {v : Nat} {j : Job} (hi : c.phase i = .prepared v j)
    (hv : v = c.written.length) : (c.writes i j).Fair := by
  have hknows := h.knows i
  rw [hi] at hknows
  obtain ⟨m, hm, hmove, hj⟩ := hknows.2 hv
  have hnew : i ∉ c.written.map Prod.fst := by
    intro hmem
    obtain ⟨⟨i', j'⟩, hwritten, rfl⟩ := List.mem_map.mp hmem
    have := h.ended i' j' hwritten
    rw [hi] at this
    cases this
  refine ⟨fun k i' j' hk => ?_, ?_, fun k l hk => ?_, fun k => ?_⟩
  · rw [Contest.writes, List.getElem?_append] at hk
    rw [records_writes]
    split at hk
    · obtain ⟨m', r, hm', hr, hmove', hj'⟩ := h.made k i' j' hk
      exact ⟨m', r, hm', List.getElem?_append_left (List.getElem?_eq_some_iff.mp hr).1 ▸ hr, hmove', hj'⟩
    · obtain ⟨hk0, hkj⟩ := List.getElem?_eq_some_iff.mp hk
      rw [List.length_singleton] at hk0
      have hlen : k = c.written.length := by omega
      simp only [List.getElem_singleton, Prod.mk.injEq] at hkj
      obtain ⟨rfl, rfl⟩ := hkj
      refine ⟨m, c.stored, hm, ?_, hmove, hj⟩
      rw [hlen, List.getElem?_append_left (List.getElem?_eq_some_iff.mp c.getElem?_records).1]
      exact c.getElem?_records
  · rw [Contest.writes, List.map_append]
    refine List.nodup_append.mpr ⟨h.once, List.nodup_singleton _, fun a ha b hb hab => hnew ?_⟩
    have hai : a = i := hab.trans (List.mem_singleton.mp hb)
    rwa [hai] at ha
  · show Function.update c.phase i _ k = _
    obtain hk | hk := List.mem_append.mp hk
    · have hne : k ≠ i := fun hki => hnew (List.mem_map.mpr ⟨(k, l), hk, hki⟩)
      rw [Function.update_of_ne hne]
      exact h.ended k l hk
    · obtain ⟨rfl, rfl⟩ := Prod.mk.inj (List.mem_singleton.mp hk)
      rw [Function.update_self]
  · show (c.writes i j).Knows k (Function.update c.phase i _ k)
    by_cases hk : k = i
    · rw [hk, Function.update_self]
      exact List.mem_append_right _ (List.mem_singleton_self _)
    · rw [Function.update_of_ne hk]
      exact (h.knows k).writes i j

theorem Fair.step (h : c.Fair) (i : Nat) : (c.step i).Fair := by
  have hlive {p : Phase} (hp : c.phase i = p) (hlive : ∀ r, p ≠ .ended r) (r : Except ServiceError Job) :
      c.phase i ≠ .ended r := hp ▸ hlive r
  have hcases := step_cases c i
  generalize c.step i = c' at hcases ⊢
  cases hcases with
  | none => exact h
  | watch hi => exact h.stands (hlive hi fun _ => Phase.noConfusion) (Nat.le_refl _)
  | refuse m v hm hi hmove =>
    exact h.stands (hlive hi fun _ => Phase.noConfusion)
      ⟨m, c.stored, hm, c.stored_mem_records, hmove, rfl⟩
  | prepare m v hm hi hmove =>
    have hknows := h.knows i
    rw [hi] at hknows
    exact h.stands (hlive hi fun _ => Phase.noConfusion) ⟨hknows, fun _ => ⟨m, hm, hmove, rfl⟩⟩
  | again v j hi hv => exact h.stands (hlive hi fun _ => Phase.noConfusion) trivial
  | write v j hi hv => exact h.writes hi hv

theorem Fair.run (h : c.Fair) (schedule : List Nat) : (c.run schedule).Fair := by
  induction schedule generalizing c with
  | nil => exact h
  | cons i schedule ih => exact ih (h.step i)

theorem run_same (c : Contest) (schedule : List Nat) :
    (c.run schedule).id = c.id ∧ (c.run schedule).moves = c.moves := by
  induction schedule generalizing c with
  | nil => exact ⟨rfl, rfl⟩
  | cons i schedule ih =>
    have hstep : (c.step i).id = c.id ∧ (c.step i).moves = c.moves := by
      unfold step
      split <;> exact ⟨rfl, rfl⟩
    exact ⟨(ih _).1.trans hstep.1, (ih _).2.trans hstep.2⟩

theorem records_succ (c : Contest) (k : Nat) : c.records[k + 1]? = c.written[k]?.map Prod.snd := by
  unfold records
  rw [List.getElem?_cons_succ, List.getElem?_map]

/-- The statuses are a path of allowed moves. -/
theorem Fair.path (h : c.Fair) :
    c.records.IsChain fun r j => r.status.canMove j.status = true := by
  refine List.isChain_iff_getElem.mpr fun k hk => ?_
  have hwritten : k < c.written.length := by
    unfold records at hk
    rw [List.length_cons, List.length_map] at hk
    omega
  obtain ⟨m, r, -, hr, hmove, hj⟩ := h.made k _ _ (List.getElem?_eq_getElem hwritten)
  have hnext : c.records[k + 1]? = some c.written[k].2 := by
    rw [records_succ, List.getElem?_eq_getElem hwritten, Option.map_some]
  have hj : c.written[k].2 = m.next r := hj
  rw [(List.getElem?_eq_some_iff.mp hr).2, (List.getElem?_eq_some_iff.mp hnext).2, hj, Move.next,
    Job.status_moved]
  exact hmove

/-- The status only goes further, so no two writes reach the same rank. -/
theorem Fair.writer_eq (h : c.Fair) {i i' : Nat} {m m' : Move} {j j' : Job}
    (hm : c.moves[i]? = some m) (hm' : c.moves[i']? = some m') (hj : (i, j) ∈ c.written)
    (hj' : (i', j') ∈ c.written) (hrank : m.target.rank = m'.target.rank) : i = i' := by
  have hpairwise : (c.records.map fun r => r.status.rank).Pairwise (· < ·) :=
    List.isChain_iff_pairwise.mp (List.isChain_map_of_isChain (fun r : Job => r.status.rank)
      (fun _ _ => JobStatus.rank_lt) h.path)
  have hrecord {k i : Nat} {m : Move} {j : Job} (hm : c.moves[i]? = some m)
      (hk : c.written[k]? = some (i, j)) :
      (c.records.map fun r => r.status.rank)[k + 1]? = some m.target.rank := by
    obtain ⟨m', r, hm', -, -, rfl⟩ := h.made k i j hk
    obtain rfl := Option.some.inj (hm'.symm.trans hm)
    rw [List.getElem?_map, records_succ, hk, Option.map_some, Option.map_some, Move.next,
      Job.status_moved]
  obtain ⟨k, hk⟩ := List.mem_iff_getElem?.mp hj
  obtain ⟨k', hk'⟩ := List.mem_iff_getElem?.mp hj'
  obtain ⟨hlen, hget⟩ := List.getElem?_eq_some_iff.mp (hrecord hm hk)
  obtain ⟨hlen', hget'⟩ := List.getElem?_eq_some_iff.mp (hrecord hm' hk')
  obtain hlt | rfl | hlt := Nat.lt_trichotomy k k'
  · have := List.pairwise_iff_getElem.mp hpairwise _ _ hlen hlen' (Nat.succ_lt_succ hlt)
    omega
  · exact (Prod.mk.inj (Option.some.inj (hk.symm.trans hk'))).1
  · have := List.pairwise_iff_getElem.mp hpairwise _ _ hlen' hlen (Nat.succ_lt_succ hlt)
    omega

/-- Nothing is written once the job has ended. -/
theorem Fair.records_step (h : c.Fair) (hend : c.stored.status.isTerminal = true) (i : Nat) :
    (c.step i).records = c.records := by
  have hcases := step_cases c i
  generalize c.step i = c' at hcases ⊢
  cases hcases with
  | write v j hi hv =>
    have hknows := h.knows i
    rw [hi] at hknows
    obtain ⟨m, -, hmove, -⟩ := hknows.2 hv
    rw [JobStatus.canMove_of_isTerminal hend] at hmove
    cases hmove
  | _ => rfl

theorem Fair.records_run (h : c.Fair) (hend : c.stored.status.isTerminal = true)
    (schedule : List Nat) : (c.run schedule).records = c.records := by
  induction schedule generalizing c with
  | nil => rfl
  | cons i schedule ih =>
    have hrecords := h.records_step hend i
    have hstored : (c.step i).stored = c.stored :=
      Option.some.inj (by rw [← getLast?_records, hrecords, getLast?_records])
    exact (ih (h.step i) (hstored ▸ hend)).trans hrecords

/-- **Only one call takes the job, and only one ends it.**  However the steps of calls that move one
job come in between each other, the statuses that are stored are a path of allowed moves; each record is
the one before it, moved as a call asked for that returns it, and a call that returns wrote one record;
at most one call moves the job to processing, and at most one to its end; a call that fails is refused,
for the status that it read, and wrote nothing; and a job that has ended is not written again. -/
theorem moves_take_turns (id : String) (first : Job) (moves : List Move) (schedule : List Nat) :
    let c := (start id first moves).run schedule
    (c.records.map Job.status).IsChain (fun s t => s.canMove t = true) ∧
    (∀ (k i : Nat) (j : Job), c.written[k]? = some (i, j) →
      ∃ (m : Move) (r : Job), moves[i]? = some m ∧ c.records[k]? = some r ∧ j = m.next r) ∧
    ((c.written.map Prod.fst).Nodup ∧
      ∀ (i : Nat) (j : Job), c.phase i = .ended (.ok j) ↔ (i, j) ∈ c.written) ∧
    (∀ (i i' : Nat) (m m' : Move) (j j' : Job), moves[i]? = some m → moves[i']? = some m' →
      c.phase i = .ended (.ok j) → c.phase i' = .ended (.ok j') →
      (m.target = .processing ∧ m'.target = .processing ∨
        m.target.isTerminal = true ∧ m'.target.isTerminal = true) → i = i') ∧
    (∀ (i : Nat) (e : ServiceError), c.phase i = .ended (.error e) →
      i ∉ c.written.map Prod.fst ∧
        ∃ (m : Move) (r : Job), moves[i]? = some m ∧ r ∈ c.records ∧
          r.status.canMove m.target = false ∧ e = .moveRefused id (some r.status) m.target) ∧
    (c.stored.status.isTerminal = true → ∀ more, (c.run more).records = c.records) := by
  intro c
  obtain ⟨hid, hmoves⟩ : c.id = id ∧ c.moves = moves := run_same _ schedule
  have h : c.Fair := (fair_start id first moves).run schedule
  have hreturns (i : Nat) (j : Job) : c.phase i = .ended (.ok j) ↔ (i, j) ∈ c.written := by
    refine ⟨fun hi => ?_, h.ended i j⟩
    have hknows := h.knows i
    rwa [hi] at hknows
  refine ⟨List.isChain_map_of_isChain Job.status (fun _ _ hmove => hmove) h.path, fun k i j hk => ?_,
    ⟨h.once, hreturns⟩, fun i i' m m' j j' hm hm' hj hj' htargets => ?_, fun i e hi => ⟨?_, ?_⟩,
    fun hend more => h.records_run hend more⟩
  · obtain ⟨m, r, hm, hr, -, hj⟩ := h.made k i j hk
    exact ⟨m, r, hmoves ▸ hm, hr, hj⟩
  · rw [← hmoves] at hm hm'
    refine h.writer_eq hm hm' ((hreturns i j).mp hj) ((hreturns i' j').mp hj') ?_
    obtain ⟨ht, ht'⟩ | ⟨ht, ht'⟩ := htargets
    · rw [ht, ht']
    · rw [JobStatus.rank_of_isTerminal ht, JobStatus.rank_of_isTerminal ht']
  · intro hwritten
    obtain ⟨⟨i', j⟩, hj, rfl⟩ := List.mem_map.mp hwritten
    have hok := h.ended i' j hj
    rw [hi] at hok
    cases hok
  · have hknows := h.knows i
    rw [hi] at hknows
    obtain ⟨m, r, hm, hr, hmove, he⟩ := hknows
    exact ⟨m, r, hmoves ▸ hm, hr, hmove, hid ▸ he⟩

/-- Two workers want one job.  The later one has to start again, and is refused. -/
example :
    let j : Job :=
      { id := "j", organization := "o", configuration := "c", status := .pending, fileName := none,
        fileSize := none, createdAt := .ofInstant 0, startedAt := none, completedAt := none,
        errorMessage := none, outputRef := none, log := none, callbackUrl := none, uid := none }
    let take : Move := ⟨.processing, [], .ofInstant 0⟩
    let c := (start "j" j [take, take]).run [0, 1, 0, 1, 0, 1, 1, 1]
    c.written.map Prod.fst = [0] ∧ c.records.map Job.status = [.pending, .processing] := by
  decide

end Contest

end Sheetflow
