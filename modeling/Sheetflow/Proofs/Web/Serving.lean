import Mathlib.Logic.Function.Basic
import Sheetflow.Proofs.Service.Calls
import Sheetflow.Proofs.Service.Filing
import Sheetflow.Proofs.Service.Interleaving

/-!
# Requests and tasks side by side

A `System` is a world in which programs run side by side: requests are answered and queued tasks are
carried out.  A command is carried out at once, but between two commands of one program those of others
may come, in any order; each may fail; and a program may be given up half-way for another.  The clock
moves on.

All these programs are fair, so in every system that is reached every completed job has its output, and
keeps it from then on (`System.Sound.run`).
-/

namespace Sheetflow

open Service

variable [Host]

/-! ### Endpoints -/

namespace Web

namespace Configurations

theorem idle_idFor (wanted : Option String) : Idle (idFor wanted) := by
  unfold idFor
  cases wanted with
  | none => exact idle_freshId _
  | some id => exact iteInduction (fun _ => idle_freshId _) fun _ => idle_pure _

theorem idle_store (wanted : Option String) (c : Configuration) : Idle (store wanted c) := by
  unfold store
  refine .bind (idle_idFor wanted) fun id =>
    .bind (.attempt (Sheetflow.Configurations.idle_save _)) fun r => ?_
  split
  · exact idle_pure _
  · exact idle_pure _
  · exact idle_throw _

theorem idle_reported (e : ServiceError) : Idle (reported e) := by
  unfold reported
  split
  · exact idle_pure _
  · exact idle_throw _

theorem idle_importDocument (r : Request) : Idle (importDocument r) := by
  unfold importDocument
  split
  · exact idle_pure _
  · split
    · exact idle_pure _
    · split
      · exact idle_store _ _
      · exact idle_reported _

theorem idle_list (r : Request) : Idle (list r) := by
  unfold list
  split
  · exact idle_pure _
  · exact .bind (Sheetflow.Configurations.idle_list _ _) fun _ => idle_pure _

theorem idle_view (r : Request) (id : String) (shown : Configuration → Value) :
    Idle (view r id shown) := by
  unfold view
  split
  · exact idle_pure _
  · refine .bind (Sheetflow.Configurations.idle_find? _ _ _) fun found => ?_
    split <;> exact idle_pure _

theorem idle_deactivate (r : Request) (id : String) : Idle (deactivate r id) := by
  unfold deactivate
  split
  · exact idle_pure _
  · refine .bind (Sheetflow.Configurations.idle_deactivate _ _) fun there => ?_
    split <;> exact idle_pure _

theorem idle_tryOut (r : Request) (id : String) : Idle (tryOut r id) := by
  unfold tryOut
  dsimp only
  split
  · exact idle_pure _
  · refine .bind (Sheetflow.Configurations.idle_find? _ _ _) fun found => ?_
    split
    · exact idle_pure _
    · split
      · exact idle_pure _
      · exact idle_reported _

end Configurations

namespace Transforms

theorem idle_showJob (s : Settings) (j : Job) : Idle (showJob s j) := by
  have hlink : Idle (jobLink s j) := by
    unfold jobLink
    split
    · exact iteInduction (fun _ => .bind (Outputs.idle_link _ _ _) fun _ => idle_pure _)
        fun _ => idle_pure _
    · exact idle_pure _
  unfold showJob
  exact .bind hlink fun _ => idle_pure _

theorem idle_showJobs (s : Settings) (js : List Job) (shown : List Value) :
    Idle (List.mapM.loop (showJob s) js shown) := by
  induction js generalizing shown with
  | nil => exact idle_pure _
  | cons j js ih => exact .bind (idle_showJob s j) fun _ => ih _

theorem idle_listJobs (s : Settings) (r : Request) : Idle (listJobs s r) := by
  unfold listJobs
  split
  · exact idle_pure _
  · exact .bind (Jobs.idle_newest _ _) fun js => .bind (idle_showJobs s js []) fun _ => idle_pure _

theorem idle_getJob (s : Settings) (r : Request) (id : String) : Idle (getJob s r id) := by
  unfold getJob
  split
  · exact idle_pure _
  · refine .bind (Jobs.idle_find? _ _) fun found => ?_
    split
    · exact .bind (idle_showJob _ _) fun _ => idle_pure _
    · exact idle_pure _

theorem idle_completed (s : Settings) (j : Job) : Idle (completed s j) := by
  unfold completed
  refine .bind (Outputs.idle_link _ _ _) fun link => .bind (.attempt (Outputs.idle_read _)) fun r => ?_
  split
  · exact idle_pure _
  · exact idle_pure _
  · exact idle_throw _

theorem idle_download (s : Settings) (token : String) : Idle (download s token) := by
  unfold download
  refine .bind (.attempt (Outputs.idle_verify _ _)) fun r => ?_
  split
  · exact idle_pure _
  · exact idle_throw _
  · refine .bind (.attempt (Outputs.idle_read _)) fun r => ?_
    split
    · exact idle_pure _
    · exact idle_pure _
    · exact idle_throw _

theorem fair_submit (h : Hold) (s : Settings) (r : Request) : Fair h (submit s r) fun _ _ => True := by
  unfold submit
  split
  · exact fair_pure trivial
  · split
    · exact fair_pure trivial
    · refine (Submission.fair_submit h s _).attempt_bind (fun submitted h' _ => ?_) fun e h' =>
        ((Configurations.idle_reported e).fair h').imp fun _ _ _ => trivial
      dsimp only
      split
      · exact fair_pure trivial
      · split
        · exact ((idle_completed _ _).fair h').imp fun _ _ _ => trivial
        · exact fair_pure trivial

end Transforms

theorem Endpoint.fair_handle (h : Hold) (s : Settings) (r : Request) (e : Endpoint) :
    Fair h (e.handle s r) fun _ _ => True := by
  have hidle {p : Service Response} (hp : Idle p) : Fair h p fun _ _ => True :=
    (hp.fair h).imp fun _ _ _ => trivial
  cases e with
  | health => exact hidle (.bind (Health.idle_check s) fun _ => idle_pure _)
  | importConfiguration => exact hidle (Configurations.idle_importDocument r)
  | listConfigurations => exact hidle (Configurations.idle_list r)
  | getConfiguration id => exact hidle (Configurations.idle_view r id _)
  | exportConfiguration id => exact hidle (Configurations.idle_view r id _)
  | deactivateConfiguration id => exact hidle (Configurations.idle_deactivate r id)
  | previewConfiguration id => exact hidle (Configurations.idle_tryOut r id)
  | transform => exact Transforms.fair_submit h s r
  | listJobs => exact hidle (Transforms.idle_listJobs s r)
  | getJob id => exact hidle (Transforms.idle_getJob s r id)
  | download token => exact hidle (Transforms.idle_download s token)

/-- **Every request is answered fairly.** -/
theorem fair_respond (h : Hold) (s : Settings) (r : Request) :
    (respond s r).Fair (fun _ _ => True) h := by
  unfold respond
  split
  · trivial
  · split
    · trivial
    · refine Program.Fair.bind (Endpoint.fair_handle h s r _).program fun outcome h' _ => ?_
      cases outcome <;> trivial

end Web

/-! ### Programs side by side -/

/-- A program whose result is not looked at. -/
def Program.ignored {α : Type} (p : Program α) : Program Unit := p.bind fun _ => .done ()

theorem Program.Fair.ignored {α : Type} {h : Hold} {Q : α → Hold → Prop} {p : Program α}
    (hp : p.Fair Q h) : p.ignored.Fair (fun _ _ => True) h := hp.bind fun _ _ _ => trivial

/-- A world, and what is left of the program at each of its places. -/
structure System where
  world : World
  running : Nat → Program Unit

/-- What happens next. -/
inductive Turn where
  /-- A request comes in and is answered at a place from now on. -/
  | request (place : Nat) (r : Web.Request)
  /-- The payload that was queued after `n` others is given to a worker, maybe once more. -/
  | deliver (place n : Nat)
  /-- The program at a place goes on, by one command at most. -/
  | go (place : Nat)
  /-- The clock moves on. -/
  | advance (micros : Nat)
  /-- Some operation is going to fail. -/
  | fail (f : PlannedFault)

namespace System

def empty (settings : Settings) (start : Instant) : System :=
  ⟨World.empty settings start, fun _ => .done ()⟩

/-- Begin a program at a place; one that ran there is given up. -/
def start (s : System) (place : Nat) (p : Program Unit) : System :=
  { s with running := Function.update s.running place p }

def turn (s : System) : Turn → System
  | .request place r => s.start place (Web.respond s.world.settings r).ignored
  | .deliver place n =>
    match s.world.queue[n]? with
    | some payload => s.start place (Task.processPayload payload).run.ignored
    | none => s
  | .go place =>
    let next := (s.running place).step s.world
    { world := next.1, running := Function.update s.running place next.2 }
  | .advance micros => { s with world := { s.world with clock := s.world.clock + micros } }
  | .fail f => { s with world := { s.world with faults := s.world.faults ++ [f] } }

def run (s : System) (turns : List Turn) : System := turns.foldl turn s

/-- Every completed job has its output, and the programs are fair, each from what it has made sure of;
no two have taken the same job. -/
structure Sound (s : System) (holds : Nat → Hold) : Prop where
  filed : s.world.Filed
  fair : ∀ place, (s.running place).Fair (fun _ _ => True) (holds place)
  bears : ∀ place, s.world.Bears (holds place)
  apart : ∀ i k, i ≠ k → (holds i).Apart (holds k)

/-- What happens to the world of a system. -/
structure GoesOn (w w' : World) : Prop where
  settings : w'.settings = w.settings
  clock : w.clock ≤ w'.clock
  lasts : w.Lasts w'

theorem GoesOn.refl (w : World) : GoesOn w w := ⟨rfl, Int.le_refl _, .refl w⟩

theorem GoesOn.trans {u v w : World} (h : GoesOn u v) (g : GoesOn v w) : GoesOn u w :=
  ⟨g.settings.trans h.settings, Int.le_trans h.clock g.clock, h.lasts.trans g.lasts⟩

variable {s : System} {holds : Nat → Hold}

theorem sound_empty (settings : Settings) (start : Instant) :
    (empty settings start).Sound fun _ => .nothing where
  filed := World.filed_empty settings start
  fair _ := trivial
  bears _ := trivial
  apart _ _ _ _ _ hi := nomatch hi

/-- The programs stay fair when one of them is replaced by a fair one. -/
theorem fair_update {running : Nat → Program Unit}
    (hfair : ∀ i, (running i).Fair (fun _ _ => True) (holds i)) (place : Nat) {p : Program Unit}
    {h : Hold} (hp : p.Fair (fun _ _ => True) h) (i : Nat) :
    (Function.update running place p i).Fair (fun _ _ => True) (Function.update holds place h i) := by
  by_cases hi : i = place
  · subst hi
    simp only [Function.update_self]
    exact hp
  · simp only [Function.update_of_ne hi]
    exact hfair i

/-- A program begins that has taken no job yet. -/
theorem Sound.start (hs : s.Sound holds) (place : Nat) {p : Program Unit} {h : Hold}
    (hp : p.Fair (fun _ _ => True) h) (hh : s.world.Bears h) (hjob : h.job? = none) :
    (s.start place p).Sound (Function.update holds place h) where
  filed := hs.filed
  fair := fair_update hs.fair place hp
  bears := (Function.forall_update_iff holds fun _ g => s.world.Bears g).mpr
    ⟨hh, fun i _ => hs.bears i⟩
  apart i k hik := by
    intro a b ha hb
    by_cases hi : i = place
    · rw [hi, Function.update_self, hjob] at ha
      cases ha
    · by_cases hk : k = place
      · rw [hk, Function.update_self, hjob] at hb
        cases hb
      · rw [Function.update_of_ne hi] at ha
        rw [Function.update_of_ne hk] at hb
        exact hs.apart i k hik a b ha hb

/-- A program goes on by a fair command. -/
theorem Sound.does (hs : s.Sound holds) (place : Nat) {w' : World} {h' : Hold} {p : Program Unit}
    (hdoes : s.world.Does w' (holds place) h') (hraces : w'.races = [])
    (hp : p.Fair (fun _ _ => True) h') :
    Sound ⟨w', Function.update s.running place p⟩ (Function.update holds place h') := by
  have hother (i : Nat) (hi : i ≠ place) : w'.Bears (holds i) ∧ h'.Apart (holds i) :=
    hdoes.bears_other hs.filed (hs.bears place) (hs.bears i) (hs.apart place i hi.symm)
  have hbears : ∀ i, w'.Bears (Function.update holds place h' i) :=
    (Function.forall_update_iff holds fun _ g => w'.Bears g).mpr
      ⟨hdoes.bears_self hs.filed (hs.bears place), fun i hi => (hother i hi).1⟩
  refine ⟨hdoes.filed hs.filed (hs.bears place) hraces, fair_update hs.fair place hp, hbears,
    fun i k hik => ?_⟩
  by_cases hi : i = place
  · subst hi
    rw [Function.update_self, Function.update_of_ne hik.symm]
    exact (hother k hik.symm).2
  · by_cases hk : k = place
    · subst hk
      rw [Function.update_self, Function.update_of_ne hi]
      exact (hother i hi).2.symm
    · rw [Function.update_of_ne hi, Function.update_of_ne hk]
      exact hs.apart i k hik

/-- Something happens to the world that is of no account to the programs. -/
theorem Sound.still (hs : s.Sound holds) {w' : World}
    (hdoes : s.world.Does w' (holds 0) (holds 0)) (hraces : w'.races = []) :
    Sound { s with world := w' } holds := by
  have hsound := hs.does 0 hdoes hraces (hs.fair 0)
  simpa only [Function.update_eq_self] using hsound

/-- A program goes on. -/
theorem Sound.go (hs : s.Sound holds) (place : Nat) :
    ∃ holds', (s.turn (.go place)).Sound holds' ∧ GoesOn s.world (s.turn (.go place)).world := by
  have hfair := hs.fair place
  have hgo : s.turn (.go place) = ⟨((s.running place).step s.world).1,
    Function.update s.running place ((s.running place).step s.world).2⟩ := rfl
  rw [hgo]
  cases hp : s.running place with
  | done a => exact ⟨_, hs.does place (.nothing rfl rfl fun _ _ => .rfl) hs.filed.races trivial, .refl _⟩
  | now next =>
    rw [hp] at hfair
    exact ⟨_, hs.does place (.nothing rfl rfl fun _ _ => .rfl) hs.filed.races (hfair _), .refl _⟩
  | freshId kind next =>
    rw [hp] at hfair
    have hdoes : s.world.Does s.world.counted (holds place) (holds place) :=
      .nothing rfl rfl fun _ _ => .rfl
    exact ⟨_, hs.does place hdoes hs.filed.races (hfair _), rfl, Int.le_refl _,
      hdoes.lasts hs.filed (hs.bears place)⟩
  | call c next =>
    rw [hp] at hfair
    have hacts := World.acts_perform hs.filed.races hfair.1
    have hreply := World.expects_perform hs.filed.races (hs.bears place) hfair.1
    exact ⟨_, hs.does place hacts.does (hacts.races.trans hs.filed.races) (hfair.2 _ hreply),
      hacts.settings, Int.le_of_eq hacts.clock.symm, hacts.does.lasts hs.filed (hs.bears place)⟩

/-- What happens next leaves a system sound. -/
theorem Sound.turn (hs : s.Sound holds) (t : Turn) :
    ∃ holds', (s.turn t).Sound holds' ∧ GoesOn s.world (s.turn t).world := by
  cases t with
  | request place r =>
    exact ⟨_, hs.start place (Web.fair_respond .nothing _ r).ignored trivial rfl, .refl _⟩
  | deliver place n =>
    rw [System.turn]
    split
    · rename_i payload hn
      obtain ⟨t, j, rfl, hj, hnamed⟩ := hs.filed.queued payload (List.mem_of_getElem? hn)
      have hid := (hs.filed.named t.job j hj).1
      exact ⟨_, hs.start place (Task.fair_processPayload hid hnamed).program.ignored
        ⟨j, hid ▸ hj, .refl j⟩ rfl, .refl _⟩
    · exact ⟨holds, hs, .refl _⟩
  | go place => exact hs.go place
  | advance micros =>
    exact ⟨holds, hs.still (.nothing rfl rfl fun _ _ => .rfl) hs.filed.races, rfl,
      Int.le_add_of_nonneg_right (Int.natCast_nonneg _), .refl _⟩
  | fail f =>
    exact ⟨holds, hs.still (.nothing rfl rfl fun _ _ => .rfl) hs.filed.races, rfl, Int.le_refl _,
      .refl _⟩

/-- A quiet command leaves the programs where they are. -/
theorem Sound.quiet (hs : s.Sound holds) {c : Command} (hc : c.isQuiet = true) :
    Sound { s with world := (s.world.perform c).1 } holds ∧ GoesOn s.world (s.world.perform c).1 := by
  have hacts := World.acts_of_isQuiet (w := s.world) (holds 0) hc
  exact ⟨hs.still hacts.does (hacts.races.trans hs.filed.races), hacts.settings,
    Int.le_of_eq hacts.clock.symm, hacts.does.lasts hs.filed (hs.bears 0)⟩

/-- **Whatever happens**, every completed job has its output, and those that had keep it. -/
theorem Sound.run (hs : s.Sound holds) (turns : List Turn) :
    ∃ holds', (s.run turns).Sound holds' ∧ GoesOn s.world (s.run turns).world := by
  induction turns generalizing s holds with
  | nil => exact ⟨holds, hs, .refl _⟩
  | cons t turns ih =>
    obtain ⟨holds', hs', hgoes⟩ := hs.turn t
    obtain ⟨holds'', hs'', hgoes'⟩ := ih hs'
    exact ⟨holds'', hs'', hgoes.trans hgoes'⟩

end System

end Sheetflow
