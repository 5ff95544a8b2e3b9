import Mathlib.Data.List.Infix
import Mathlib.Logic.Function.Basic
import Sheetflow.Proofs.Service.AllOrNothing
import Sheetflow.Proofs.Service.History
import Sheetflow.Proofs.Service.Stepping

/-!
# Two that save at the same time

Saving reads what is stored under the id, and then writes without looking again.  Of two calls that
save under one id, each is told what was stored at the start or what the other one wrote
(`Saves.History`).  They cross if both are about to write at one time.

If they do not cross they are in turn, and everything is in order: the owner stays, and the second one
to write counts the version up from the first.  The owner also stays if something was stored at
the start.  But when calls cross, both were told the same, so that neither refuses the other: both
succeed, the version is counted up once, and an id that was free belongs to the last one to write
though both organizations have it in their index (`Saves.safe_unless_crossing`).
-/

namespace Sheetflow

open Service

namespace Configurations

/-- Two calls that save configurations, and the world. -/
structure Saves where
  world : World
  saving : Bool → Service Configuration

namespace Saves

/-- One of the calls goes on, or the clock does. -/
inductive Turn where
  | act (caller : Bool)
  | tick (clock : Instant)

def start (w : World) (given : Bool → Configuration) : Saves := ⟨w, fun b => save (given b)⟩

def step (a : Saves) : Turn → Saves
  | .act b =>
    let (w, p) := (a.saving b).step a.world
    ⟨w, Function.update a.saving b p⟩
  | .tick clock => { a with world := { a.world with clock } }

def run (a : Saves) (turns : List Turn) : Saves := turns.foldl step a

theorem run_append (a : Saves) (turns more : List Turn) :
    a.run (turns ++ more) = (a.run turns).run more := List.foldl_append

/-- Is a call about to write what it was asked to save? -/
def isWriting (p : Service Configuration) : Bool :=
  match p.command? with
  | some (.setConfiguration _) => true
  | _ => false

def areWriting (a : Saves) : Bool := isWriting (a.saving false) && isWriting (a.saving true)

/-- At some time both calls are about to write. -/
def Cross (w : World) (given : Bool → Configuration) (turns : List Turn) : Prop :=
  ∃ before ∈ turns.inits, ((start w given).run before).areWriting = true

instance (w : World) (given : Bool → Configuration) (turns : List Turn) :
    Decidable (Cross w given turns) :=
  inferInstanceAs (Decidable (∃ before ∈ turns.inits, _))

end Saves

/-! ### Stages of a call -/

/-- How far a call is: before its beginning, about to read, about to write, about to index what it
wrote, or over.  Behind the reading it is known what the call was told and what it makes of that. -/
inductive Stage where
  | start
  | reading (t : DateTime)
  | writing (told : Option Configuration) (c : Configuration)
  | indexing (told : Option Configuration) (c : Configuration)
  | saved (told : Option Configuration) (c : Configuration)
  | refused (e : ServiceError)

namespace Stage
variable {w : World} {given : Configuration} {st : Stage}

/-- What is left of the call. -/
def service (given : Configuration) : Stage → Service Configuration
  | start => save given
  | reading t => do
    let existing ← command (.getConfiguration given.id)
    let c ← result (stored given existing t)
    let _ ← command (.setConfiguration c)
    let _ ← command (.indexConfiguration c.organization c.id)
    return c
  | writing _ c => do
    let _ ← command (.setConfiguration c)
    let _ ← command (.indexConfiguration c.organization c.id)
    return c
  | indexing _ c => do
    let _ ← command (.indexConfiguration c.organization c.id)
    return c
  | saved _ c => pure c
  | refused e => throw e

/-- What a call makes of what it is told. -/
def afterReading (given : Configuration) (told : Option Configuration) (t : DateTime) : Stage :=
  match stored given told t with
  | .ok c => writing told c
  | .error e => refused e

/-- What a step does. -/
def next (given : Configuration) (w : World) : Stage → World × Stage
  | start => (w, reading w.time)
  | reading t => (w, afterReading given (w.store.configurations.get? given.id) t)
  | writing told c =>
    (w.withStore { w.store with configurations := w.store.configurations.set c.id c }, indexing told c)
  | indexing told c => (w.withStore (w.store.addConfigurationId c.organization c.id), saved told c)
  | saved told c => (w, saved told c)
  | refused e => (w, refused e)

/-- What a call was told that was not refused, and what it makes of that. -/
def passed? : Stage → Option (Option Configuration × Configuration)
  | writing told c => some (told, c)
  | indexing told c => some (told, c)
  | saved told c => some (told, c)
  | _ => none

def hasWritten : Stage → Bool
  | indexing _ _ => true
  | saved _ _ => true
  | _ => false

/-- **A step of the call is a step of its stage.** -/
theorem step_service (hw : w.Steady) (given : Configuration) (st : Stage) :
    (st.service given).step w = ((st.next given w).1, (st.next given w).2.service given) := by
  cases st with
  | start => rfl
  | reading t =>
    have hget : w.perform (.getConfiguration given.id) =
        (w, .ok (w.store.configurations.get? given.id)) := by
      rw [World.perform, World.attempt_of_steady hw (by decide)]
      rfl
    refine (step_command_bind hget _).trans ?_
    show (w, _) = (w, (afterReading given (w.store.configurations.get? given.id) t).service given)
    unfold afterReading
    cases stored given (w.store.configurations.get? given.id) t <;> rfl
  | writing told c =>
    have hset : w.perform (.setConfiguration c) = ((next given w (writing told c)).1, .ok ()) := by
      rw [World.perform, World.attempt_of_steady hw (by decide)]
      rfl
    exact step_command_bind hset _
  | indexing told c =>
    have hindex : w.perform (.indexConfiguration c.organization c.id) =
        ((next given w (indexing told c)).1, .ok ()) := by
      rw [World.perform, World.attempt_of_steady hw (by decide)]
      rfl
    exact step_command_bind hindex _
  | saved told c => rfl
  | refused e => rfl

theorem isWriting_service (h : Saves.isWriting (st.service given) = true) :
    ∃ told c, st = writing told c := by
  cases st with
  | writing told c => exact ⟨told, c, rfl⟩
  | _ => cases h

theorem eq_saved_of_isOver {told : Option Configuration} {c : Configuration}
    (hpassed : st.passed? = some (told, c)) (hover : (st.service given).isOver = true) :
    st = saved told c := by
  cases st with
  | saved told d =>
    obtain ⟨rfl, rfl⟩ := Prod.mk.inj (Option.some.inj hpassed)
    rfl
  | writing told d => cases hover
  | indexing told d => cases hover
  | _ => cases hpassed

theorem eq_saved_of_value? {c : Configuration} (h : (st.service given).value? = some c) :
    ∃ told, st = saved told c := by
  cases st with
  | saved told d => exact ⟨told, congrArg _ (Option.some.inj h)⟩
  | _ => cases h

theorem eq_writing {told : Option Configuration} {c : Configuration}
    (hpassed : st.passed? = some (told, c)) (h : st.hasWritten = false) : st = writing told c := by
  cases st with
  | writing told d =>
    obtain ⟨rfl, rfl⟩ := Prod.mk.inj (Option.some.inj hpassed)
    rfl
  | indexing told d => cases h
  | saved told d => cases h
  | _ => cases hpassed

/-- Once a call has passed, it stays with what it was told. -/
theorem passed?_next {x : Option Configuration × Configuration} (h : st.passed? = some x)
    (given : Configuration) (w : World) : (st.next given w).2.passed? = some x := by
  cases st with
  | start => cases h
  | reading t => cases h
  | refused e => cases h
  | _ => exact h

/-- A call passes by reading, and keeps what is stored then in mind. -/
theorem eq_of_passed?_next {told : Option Configuration} {c : Configuration}
    (h : (st.next given w).2.passed? = some (told, c)) :
    st.passed? = some (told, c) ∨ ∃ t, st = reading t ∧
      told = w.store.configurations.get? given.id ∧ stored given told t = .ok c ∧
      (st.next given w).2 = writing told c := by
  cases st with
  | start => cases h
  | refused e => cases h
  | reading t =>
    refine .inr ⟨t, rfl, ?_⟩
    unfold next afterReading at h ⊢
    cases hstored : stored given (w.store.configurations.get? given.id) t with
    | error e =>
      simp only [hstored] at h
      cases h
    | ok d =>
      simp only [hstored] at h
      obtain ⟨rfl, rfl⟩ := Prod.mk.inj (Option.some.inj h)
      exact ⟨rfl, hstored, by simp only [hstored]⟩
  | _ => exact .inl h

end Stage

/-- A version is counted up from the one that is stored. -/
theorem version_of_stored {c c' : Configuration} {existing : Option Configuration} {now : DateTime}
    (h : stored c existing now = .ok c') :
    c'.version = existing.elim c.version fun old => old.version + 1 := by
  cases existing with
  | none =>
    obtain rfl := Except.ok.inj h
    rfl
  | some old =>
    rw [stored] at h
    split at h
    · obtain rfl := Except.ok.inj h
      rfl
    · cases h

/-- What is written is not what was read. -/
theorem ne_of_stored {c c' : Configuration} {existing : Option Configuration} {now : DateTime}
    (h : stored c existing now = .ok c') : existing ≠ some c' := by
  rintro rfl
  have hversion := version_of_stored h
  rw [Option.elim_some] at hversion
  omega

/-! ### What two calls have written -/

/-- What is stored under the id, given what was stored at the start: that, as long as neither call has
written; or what the one made of it that has; or what the second made of it or of what the first
wrote. -/
inductive Saves.History (old : Option Configuration) (st : Bool → Stage) :
    Option Configuration → Prop
  | unwritten (waits : ∀ b, (st b).hasWritten = false)
    (told : ∀ b told c, (st b).passed? = some (told, c) → told = old) : History old st old
  | once (b : Bool) (c : Configuration) (first : (st b).passed? = some (old, c))
    (wrote : (st b).hasWritten = true) (waits : (st !b).hasWritten = false)
    (told : ∀ told d, (st !b).passed? = some (told, d) → told = old ∨ told = some c) :
    History old st (some c)
  | twice (b : Bool) (c d : Configuration) (told : Option Configuration)
    (wrote : ∀ b, (st b).hasWritten = true) (first : (st b).passed? = some (old, c))
    (second : (st !b).passed? = some (told, d)) (told_eq : told = old ∨ told = some c) :
    History old st (some d)

namespace Saves
variable {old current : Option Configuration} {st st' : Bool → Stage} {b : Bool}

namespace History

theorem congr (h : History old st current) (hpassed : ∀ b, (st' b).passed? = (st b).passed?)
    (hwrote : ∀ b, (st' b).hasWritten = (st b).hasWritten) : History old st' current := by
  cases h with
  | unwritten waits told =>
    exact .unwritten (fun b => (hwrote b).trans (waits b)) fun b t c hp => told b t c (hpassed b ▸ hp)
  | once b c first wrote waits told =>
    exact .once b c ((hpassed b).trans first) ((hwrote b).trans wrote) ((hwrote _).trans waits)
      fun t d hp => told t d (hpassed (!b) ▸ hp)
  | twice b c d told wrote first second told_eq =>
    exact .twice b c d told (fun b => (hwrote b).trans (wrote b)) ((hpassed b).trans first)
      ((hpassed _).trans second) told_eq

/-- One is told what is stored. -/
theorem read (h : History old st current) (hb : (st b).passed? = none) (hw : (st b).hasWritten = false)
    (c : Configuration) : History old (Function.update st b (.writing current c)) current := by
  have hself : Function.update st b (.writing current c) b = .writing current c :=
    Function.update_self _ _ _
  have hother {k : Bool} (hk : k ≠ b) : Function.update st b (.writing current c) k = st k :=
    Function.update_of_ne hk _ _
  cases h with
  | unwritten waits told =>
    refine .unwritten ?_ ?_
    · exact (Function.forall_update_iff st fun _ x => x.hasWritten = false).mpr
        ⟨rfl, fun k _ => waits k⟩
    · exact (Function.forall_update_iff st fun _ x => ∀ t d, x.passed? = some (t, d) → t = old).mpr
        ⟨fun t d hp => (Prod.mk.inj (Option.some.inj hp)).1.symm, fun k _ => told k⟩
  | once k e first wrote waits told =>
    have hk : k ≠ b := by
      rintro rfl
      rw [hw] at wrote
      cases wrote
    obtain rfl : b = !k := Bool.eq_not.mpr (Ne.symm hk)
    refine .once k e (by rw [hother hk, first]) (by rw [hother hk, wrote]) (by rw [hself]; rfl)
      fun t d hp => ?_
    rw [hself] at hp
    exact .inr (Prod.mk.inj (Option.some.inj hp)).1.symm
  | twice k e d told wrote first second told_eq =>
    rw [wrote b] at hw
    cases hw

/-- One writes. -/
theorem write {told : Option Configuration} {c : Configuration} (h : History old st current)
    (hb : st b = .writing told c) :
    History old (Function.update st b (.indexing told c)) (some c) := by
  have hself : Function.update st b (.indexing told c) b = .indexing told c :=
    Function.update_self _ _ _
  have hother {k : Bool} (hk : k ≠ b) : Function.update st b (.indexing told c) k = st k :=
    Function.update_of_ne hk _ _
  have hpassed : (st b).passed? = some (told, c) := by rw [hb]; rfl
  have hwaits : (st b).hasWritten = false := by rw [hb]; rfl
  have hnot : (!b) ≠ b := by simp
  cases h with
  | unwritten waits htold =>
    obtain rfl := htold b told c hpassed
    refine .once b c (by rw [hself]; rfl) (by rw [hself]; rfl) (by rw [hother hnot, waits])
      fun t d hp => .inl ?_
    rw [hother hnot] at hp
    exact htold _ t d hp
  | once k e first wrote waits htold =>
    have hk : k ≠ b := by
      rintro rfl
      rw [hwaits] at wrote
      cases wrote
    obtain rfl : b = !k := Bool.eq_not.mpr (Ne.symm hk)
    refine .twice k e c told (fun l => ?_) (by rw [hother hk, first]) (by rw [hself]; rfl)
      (htold told c hpassed)
    by_cases hl : l = !k
    · rw [hl, hself]
      rfl
    · rw [hother hl, Bool.eq_not_of_ne hl, Bool.not_not, wrote]
  | twice k e d told wrote first second told_eq =>
    rw [wrote b] at hwaits
    cases hwaits

end History

/-- Two calls and the stages they are at, where `old` was stored under the id at the start. -/
structure Stands (given : Bool → Configuration) (id : String) (old : Option Configuration) (a : Saves)
    (st : Bool → Stage) : Prop where
  steady : a.world.Steady
  saving : ∀ b, a.saving b = (st b).service (given b)
  made : ∀ b told c, (st b).passed? = some (told, c) → ∃ t, stored (given b) told t = .ok c
  history : History old st (a.world.store.configurations.get? id)
  indexed : ∀ b told c, st b = .saved told c →
    id ∈ a.world.store.configurationIds (given b).organization

/-- Both calls have passed, and both were told what was stored at the start. -/
def BothTold (old : Option Configuration) (st : Bool → Stage) : Prop :=
  ∀ b, ∃ c, (st b).passed? = some (old, c)

/-- Every configuration that is stored in the first store is stored in the second with the same
owner. -/
def OwnersStay (s t : Store) : Prop :=
  ∀ id c, s.configurations.get? id = some c →
    ∃ d, t.configurations.get? id = some d ∧ d.organization = c.organization

theorem OwnersStay.refl (s : Store) : OwnersStay s s := fun _ c hc => ⟨c, hc, rfl⟩

theorem OwnersStay.trans {s t u : Store} (h : OwnersStay s t) (g : OwnersStay t u) : OwnersStay s u := by
  intro id c hc
  obtain ⟨d, hd, hdc⟩ := h id c hc
  obtain ⟨e, he, hed⟩ := g id d hd
  exact ⟨e, he, hed.trans hdc⟩

/-- What a step of the calls comes to. -/
structure Goes (given : Bool → Configuration) (id : String) (old : Option Configuration) (a : Saves)
    (st : Bool → Stage) (a' : Saves) (st' : Bool → Stage) : Prop where
  stands : a'.Stands given id old st'
  passed : ∀ b x, (st b).passed? = some x → (st' b).passed? = some x
  crossing : BothTold old st' → BothTold old st ∨ a'.areWriting = true
  owned : (¬ BothTold old st ∨ old.isSome = true) → a.world.store.Owned →
    a'.world.store.Owned ∧ OwnersStay a.world.store a'.world.store

section Steps
variable {given : Bool → Configuration} {id : String} {a : Saves}

/-- Unless both calls were told the same, what is stored belongs to each that has passed. -/
theorem Stands.owner (h : a.Stands given id old st) (hsafe : ¬ BothTold old st ∨ old.isSome = true)
    {told : Option Configuration} {c : Configuration} (hc : (st b).passed? = some (told, c))
    {x : Configuration} (hx : a.world.store.configurations.get? id = some x) :
    x.organization = c.organization := by
  -- what is made of something has the organization that it had
  have hmade {b : Bool} {o c : Configuration} (hc : (st b).passed? = some (some o, c)) :
      o.organization = c.organization := by
    obtain ⟨t, ht⟩ := h.made b _ c hc
    obtain ⟨-, horg, hold⟩ := of_stored ht
    exact (hold o rfl).trans horg.symm
  have hboth {c d : Configuration} {b : Bool} (hc : (st b).passed? = some (old, c))
      (hd : (st !b).passed? = some (old, d)) : c.organization = d.organization := by
    obtain hnot | hsome := hsafe
    · refine absurd (fun k => ?_) hnot
      by_cases hk : k = b
      · exact ⟨c, hk ▸ hc⟩
      · exact ⟨d, Bool.eq_not_of_ne hk ▸ hd⟩
    · obtain ⟨o, rfl⟩ := Option.isSome_iff_exists.mp hsome
      exact (hmade hc).symm.trans (hmade hd)
  have hhistory := h.history
  rw [hx] at hhistory
  generalize hcurrent : some x = current at hhistory
  cases hhistory with
  | unwritten waits htold =>
    obtain rfl := htold b told c hc
    rw [← hcurrent] at hc
    exact hmade hc
  | once k e first wrote waits htold =>
    obtain rfl := Option.some.inj hcurrent
    by_cases hk : b = k
    · obtain ⟨-, rfl⟩ := Prod.mk.inj (Option.some.inj (first.symm.trans (hk ▸ hc)))
      rfl
    · rw [Bool.eq_not_of_ne hk] at hc
      obtain rfl | rfl := htold told c hc
      · exact hboth first hc
      · exact hmade hc
  | twice k e d told' wrote first second told_eq =>
    obtain rfl := Option.some.inj hcurrent
    by_cases hk : b = k
    · obtain ⟨-, rfl⟩ := Prod.mk.inj (Option.some.inj (first.symm.trans (hk ▸ hc)))
      obtain rfl | rfl := told_eq
      · exact (hboth first second).symm
      · exact (hmade second).symm
    · rw [Bool.eq_not_of_ne hk] at hc
      obtain ⟨-, rfl⟩ := Prod.mk.inj (Option.some.inj (second.symm.trans hc))
      rfl

/-- Where one call has written something is stored. -/
theorem Stands.exists_of_hasWritten (h : a.Stands given id old st) (hwrote : (st b).hasWritten = true) :
    ∃ x, a.world.store.configurations.get? id = some x := by
  have hhistory := h.history
  generalize a.world.store.configurations.get? id = current at hhistory
  cases hhistory with
  | unwritten waits _ =>
    rw [waits] at hwrote
    cases hwrote
  | once k e _ _ _ _ => exact ⟨e, rfl⟩
  | twice k e d _ _ _ _ _ => exact ⟨d, rfl⟩

/-- When both have written, the second of them was told the same as the first, or has counted the
version up from it. -/
theorem Stands.twice (h : a.Stands given id old st) (hwrote : ∀ b, (st b).hasWritten = true) :
    ∃ b c d told, (st b).passed? = some (old, c) ∧ (st !b).passed? = some (told, d) ∧
      a.world.store.configurations.get? id = some d ∧
      (told = old ∨ d.version = c.version + 1) := by
  have hhistory := h.history
  generalize a.world.store.configurations.get? id = current at hhistory
  cases hhistory with
  | unwritten waits _ =>
    have hwaits := waits true
    rw [hwrote] at hwaits
    cases hwaits
  | once k e _ _ waits _ =>
    rw [hwrote] at waits
    cases waits
  | twice k e d told _ first second told_eq =>
    refine ⟨k, e, d, told, first, second, rfl, told_eq.imp_right ?_⟩
    rintro rfl
    obtain ⟨_, hstored⟩ := h.made _ _ _ second
    exact version_of_stored hstored

/-- A call that has passed and has not written is about to write. -/
theorem Stands.areWriting (h : a.Stands given id old st) (hwaits : ∀ b, (st b).hasWritten = false)
    (hpassed : ∀ b, ∃ x, (st b).passed? = some x) : a.areWriting = true := by
  have hwriting (b : Bool) : isWriting (a.saving b) = true := by
    obtain ⟨⟨told, c⟩, hx⟩ := hpassed b
    rw [h.saving, Stage.eq_writing hx (hwaits b)]
    rfl
  rw [Saves.areWriting, hwriting, hwriting]
  rfl

theorem steady_next (h : a.world.Steady) (given : Configuration) (st : Stage) :
    (st.next given a.world).1.Steady := by
  cases st with
  | writing told c => exact h.withStore _
  | indexing told c => exact h.withStore _
  | _ => exact h

/-- Which stages and what store there are after a step of one call. -/
theorem Stands.step_act (h : a.Stands given id old st) (b : Bool) :
    a.step (.act b) = ⟨((st b).next (given b) a.world).1, fun k =>
      (Function.update st b ((st b).next (given b) a.world).2 k).service (given k)⟩ := by
  have hstep : (a.saving b).step a.world = (((st b).next (given b) a.world).1,
      ((st b).next (given b) a.world).2.service (given b)) := by
    rw [h.saving, Stage.step_service h.steady]
  have hsaving : a.saving = fun k => (st k).service (given k) := funext h.saving
  simp only [step, hstep]
  rw [hsaving]
  congr 1
  funext k
  exact (Function.apply_update (fun k x => Stage.service (given k) x) st b _ k).symm

theorem Stands.history_next (h : a.Stands given id old st) (hid : ∀ b, (given b).id = id) (b : Bool) :
    History old (Function.update st b ((st b).next (given b) a.world).2)
      (((st b).next (given b) a.world).1.store.configurations.get? id) := by
  have hquiet {x : Stage} (hpassed : x.passed? = (st b).passed?)
      (hwrote : x.hasWritten = (st b).hasWritten) :
      History old (Function.update st b x) (a.world.store.configurations.get? id) := by
    refine h.history.congr ?_ ?_
    · exact (Function.forall_update_iff st fun k y => y.passed? = (st k).passed?).mpr
        ⟨hpassed, fun _ _ => rfl⟩
    · exact (Function.forall_update_iff st fun k y => y.hasWritten = (st k).hasWritten).mpr
        ⟨hwrote, fun _ _ => rfl⟩
  cases hst : st b with
  | start =>
    rw [hst] at hquiet
    exact hquiet rfl rfl
  | refused e =>
    rw [hst] at hquiet
    exact hquiet rfl rfl
  | saved told c =>
    rw [hst] at hquiet
    exact hquiet rfl rfl
  | indexing told c =>
    rw [hst] at hquiet
    show History old _ ((a.world.store.addConfigurationId _ _).configurations.get? id)
    rw [Store.configurations_addConfigurationId]
    exact hquiet rfl rfl
  | writing told c =>
    obtain ⟨t, ht⟩ := h.made b told c (by rw [hst]; rfl)
    obtain ⟨hcid, -⟩ := of_stored ht
    rw [hid] at hcid
    show History old _ ((a.world.store.configurations.set c.id c).get? id)
    rw [hcid, Table.get?_set_self]
    exact h.history.write hst
  | reading t =>
    show History old (Function.update st b (Stage.afterReading (given b) _ t)) _
    unfold Stage.afterReading
    cases stored (given b) (a.world.store.configurations.get? (given b).id) t with
    | error e =>
      rw [hst] at hquiet
      exact hquiet rfl rfl
    | ok c =>
      rw [hid]
      exact h.history.read (by rw [hst]; rfl) (by rw [hst]; rfl) c

/-- Indexes lose nothing. -/
theorem mem_configurationIds_next {org i : String} {w : World} (h : i ∈ w.store.configurationIds org)
    (given : Configuration) (st : Stage) :
    i ∈ (st.next given w).1.store.configurationIds org := by
  cases st with
  | indexing told c => exact (Store.mem_addConfigurationId _ _ _ _ _).mpr (.inl h)
  | _ => exact h

theorem Stands.indexed_next (h : a.Stands given id old st) (hid : ∀ b, (given b).id = id) (b k : Bool)
    {told : Option Configuration} {c : Configuration}
    (hsaved : Function.update st b ((st b).next (given b) a.world).2 k = .saved told c) :
    id ∈ ((st b).next (given b) a.world).1.store.configurationIds (given k).organization := by
  by_cases hk : k = b
  · subst hk
    rw [Function.update_self] at hsaved
    cases hst : st k with
    | indexing t d =>
      obtain ⟨_, hstored⟩ := h.made k t d (by rw [hst]; rfl)
      obtain ⟨hdid, hdorg, -⟩ := of_stored hstored
      rw [hid] at hdid
      exact (Store.mem_addConfigurationId _ _ _ _ _).mpr (.inr ⟨hdorg, hdid.symm⟩)
    | saved t d => exact h.indexed k t d hst
    | reading t =>
      rw [hst] at hsaved
      unfold Stage.next Stage.afterReading at hsaved
      dsimp only at hsaved
      split at hsaved <;> cases hsaved
    | _ =>
      rw [hst] at hsaved
      cases hsaved
  · rw [Function.update_of_ne hk] at hsaved
    exact mem_configurationIds_next (h.indexed k told c hsaved) _ _

/-- If both calls were told the same only now, the one that read now is about to write, and so is the
other: what it had written would not be what was stored at the start. -/
theorem Stands.crossing_next (h : a.Stands given id old st) (hid : ∀ b, (given b).id = id) (b : Bool)
    (hboth : BothTold old (Function.update st b ((st b).next (given b) a.world).2)) :
    BothTold old st ∨
      ∀ k, (Function.update st b ((st b).next (given b) a.world).2 k).hasWritten = false := by
  obtain ⟨c, hc⟩ := hboth b
  rw [Function.update_self] at hc
  obtain ⟨d, hd⟩ := hboth (!b)
  rw [Function.update_of_ne (by simp)] at hd
  obtain hpassed | ⟨t, hst, htold, -, hnext⟩ := Stage.eq_of_passed?_next hc
  · refine .inl fun k => ?_
    by_cases hk : k = b
    · exact ⟨c, hk ▸ hpassed⟩
    · exact ⟨d, Bool.eq_not_of_ne hk ▸ hd⟩
  · refine .inr fun k => ?_
    by_cases hk : k = b
    · rw [hk, Function.update_self, hnext]
      rfl
    · rw [Function.update_of_ne hk, Bool.eq_not_of_ne hk]
      rw [hid] at htold
      have hhistory := h.history
      generalize a.world.store.configurations.get? id = current at htold hhistory
      cases hhistory with
      | unwritten waits _ => exact waits _
      | once l e first wrote waits _ =>
        by_cases hl : l = b
        · rw [hl, hst] at wrote
          cases wrote
        · rw [Bool.eq_not_of_ne hl] at first
          obtain ⟨_, hstored⟩ := h.made _ _ _ first
          exact absurd htold (ne_of_stored hstored)
      | twice l e d' told wrote _ _ _ =>
        have hwrote := wrote b
        rw [hst] at hwrote
        cases hwrote

/-- What is written and indexed belongs to the organization that owns what is stored. -/
theorem Stands.owned_next (h : a.Stands given id old st) (hid : ∀ b, (given b).id = id)
    (hsafe : ¬ BothTold old st ∨ old.isSome = true) (howned : a.world.store.Owned) (b : Bool) :
    ((st b).next (given b) a.world).1.store.Owned ∧
      OwnersStay a.world.store ((st b).next (given b) a.world).1.store := by
  have htended {org : String} {t : Store} (ht : a.world.store.Tended org t) :
      t.Owned ∧ OwnersStay a.world.store t := ⟨ht.owned, ht.spares.configurations.stays⟩
  cases hst : st b with
  | writing told c =>
    have hpassed : (st b).passed? = some (told, c) := by rw [hst]; rfl
    obtain ⟨_, hstored⟩ := h.made b told c hpassed
    obtain ⟨hcid, -⟩ := of_stored hstored
    rw [hid] at hcid
    refine htended (Store.tended_setConfiguration howned rfl fun x hx => ?_)
    rw [hcid] at hx
    exact h.owner hsafe hpassed hx
  | indexing told c =>
    have hpassed : (st b).passed? = some (told, c) := by rw [hst]; rfl
    obtain ⟨_, hstored⟩ := h.made b told c hpassed
    obtain ⟨hcid, -⟩ := of_stored hstored
    rw [hid] at hcid
    obtain ⟨x, hx⟩ := h.exists_of_hasWritten (b := b) (by rw [hst]; rfl)
    refine htended (Store.tended_addConfigurationId howned ⟨x, ?_, h.owner hsafe hpassed hx⟩)
    rw [hcid, hx]
  | _ => exact ⟨howned, .refl _⟩

theorem Stands.act (h : a.Stands given id old st) (hid : ∀ b, (given b).id = id) (b : Bool) :
    ∃ st', a.Goes given id old st (a.step (.act b)) st' := by
  rw [h.step_act b]
  have hstands : Stands given id old ⟨((st b).next (given b) a.world).1, fun k =>
      (Function.update st b ((st b).next (given b) a.world).2 k).service (given k)⟩
      (Function.update st b ((st b).next (given b) a.world).2) := by
    refine ⟨steady_next h.steady _ _, fun _ => rfl, ?_, h.history_next hid b,
      fun k told c => h.indexed_next hid b k⟩
    refine (Function.forall_update_iff st fun k x => ∀ told c, x.passed? = some (told, c) →
      ∃ t, stored (given k) told t = .ok c).mpr ⟨fun told c hc => ?_, fun k _ => h.made k⟩
    obtain hpassed | ⟨t, -, -, hstored, -⟩ := Stage.eq_of_passed?_next hc
    · exact h.made b told c hpassed
    · exact ⟨t, hstored⟩
  refine ⟨_, hstands, ?_, fun hboth => ?_, fun hsafe howned => h.owned_next hid hsafe howned b⟩
  · exact (Function.forall_update_iff st fun k y => ∀ x, (st k).passed? = some x →
      y.passed? = some x).mpr ⟨fun x hx => Stage.passed?_next hx _ _, fun _ _ _ hx => hx⟩
  · refine (h.crossing_next hid b hboth).imp_right fun hwaits => ?_
    exact hstands.areWriting hwaits fun k => ⟨_, (hboth k).choose_spec⟩

theorem Stands.step (h : a.Stands given id old st) (hid : ∀ b, (given b).id = id) (turn : Turn) :
    ∃ st', a.Goes given id old st (a.step turn) st' := by
  cases turn with
  | act b => exact h.act hid b
  | tick clock =>
    exact ⟨st, ⟨⟨h.steady.races, h.steady.faults, h.steady.connected⟩, h.saving, h.made, h.history,
      h.indexed⟩, fun _ _ hx => hx, .inl, fun _ howned => ⟨howned, .refl _⟩⟩

end Steps

/-! ### All steps -/

section Run
variable {given : Bool → Configuration} {id : String} {w : World} {a : Saves}

theorem stands_start (hw : w.Steady) (given : Bool → Configuration) (id : String) :
    (start w given).Stands given id (w.store.configurations.get? id) fun _ => .start :=
  ⟨hw, fun _ => rfl, fun _ _ _ hc => (nomatch hc),
    .unwritten (fun _ => rfl) fun _ _ _ hc => (nomatch hc), fun _ _ _ hst => (nomatch hst)⟩

/-- What was passed stays passed. -/
theorem Stands.run (h : a.Stands given id old st) (hid : ∀ b, (given b).id = id) (turns : List Turn) :
    ∃ st', (a.run turns).Stands given id old st' ∧
      ∀ b x, (st b).passed? = some x → (st' b).passed? = some x := by
  induction turns generalizing a st with
  | nil => exact ⟨st, h, fun _ _ hx => hx⟩
  | cons turn turns ih =>
    obtain ⟨st₁, hgoes⟩ := h.step hid turn
    obtain ⟨st₂, hstands, hpassed⟩ := ih hgoes.stands
    exact ⟨st₂, hstands, fun b x hx => hpassed b x (hgoes.passed b x hx)⟩

theorem Cross.append {turns : List Turn} (h : Cross w given turns) (more : List Turn) :
    Cross w given (turns ++ more) := by
  obtain ⟨before, hbefore, hwriting⟩ := h
  have hprefix := ((List.mem_inits _ _).mp hbefore).trans (List.prefix_append turns more)
  exact ⟨before, (List.mem_inits _ _).mpr hprefix, hwriting⟩

/-- Where the calls stand after some turns.  They were told the same only if they crossed, and otherwise,
or if something was stored at the start, all owners are those that they were. -/
theorem exists_stands (hw : w.Steady) (howned : w.store.Owned) (hid : ∀ b, (given b).id = id)
    (turns : List Turn) :
    ∃ st, ((start w given).run turns).Stands given id (w.store.configurations.get? id) st ∧
      (BothTold (w.store.configurations.get? id) st → Cross w given turns) ∧
      (¬ Cross w given turns ∨ (w.store.configurations.get? id).isSome = true →
        ((start w given).run turns).world.store.Owned ∧
        ∀ before, before <+: turns → OwnersStay ((start w given).run before).world.store
          ((start w given).run turns).world.store) := by
  induction turns using List.reverseRecOn with
  | nil =>
    refine ⟨_, stands_start hw given id, fun hboth => ?_, fun _ => ⟨howned, fun before hb => ?_⟩⟩
    · obtain ⟨_, hc⟩ := hboth true
      cases hc
    · rw [List.prefix_nil.mp hb]
      exact .refl _
  | append_singleton turns turn ih =>
    obtain ⟨st, hstands, hcross, hsafe⟩ := ih
    obtain ⟨st', hgoes⟩ := hstands.step hid turn
    have hrun : (start w given).run (turns ++ [turn]) = ((start w given).run turns).step turn :=
      run_append _ _ _
    rw [hrun]
    refine ⟨st', hgoes.stands, fun hboth => ?_, fun hnot => ?_⟩
    · obtain hbefore | hwriting := hgoes.crossing hboth
      · exact (hcross hbefore).append [turn]
      · exact ⟨turns ++ [turn], (List.mem_inits _ _).mpr (List.prefix_refl _), by rwa [hrun]⟩
    · have hnot' : ¬ Cross w given turns ∨ (w.store.configurations.get? id).isSome = true :=
        hnot.imp_left fun h hc => h (hc.append [turn])
      obtain ⟨hstore, hstay⟩ := hsafe hnot'
      obtain ⟨hstore', hstay'⟩ := hgoes.owned (hnot'.imp_left fun h hb => h (hcross hb)) hstore
      refine ⟨hstore', fun before hb => ?_⟩
      obtain rfl | hb := List.prefix_concat_iff.mp hb
      · rw [hrun]
        exact .refl _
      · exact (hstay before hb).trans hstay'

/-- Calls that have crossed and are over have both saved what they made of the same. -/
theorem Cross.saved (hw : w.Steady) (hid : ∀ b, (given b).id = id) {turns : List Turn}
    (h : Cross w given turns)
    (hover : ∀ b, (((start w given).run turns).saving b).isOver = true) :
    ∃ st, ∃ c : Bool → Configuration,
      ((start w given).run turns).Stands given id (w.store.configurations.get? id) st ∧ ∀ b,
        st b = .saved (w.store.configurations.get? id) (c b) := by
  obtain ⟨before, hbefore, hwriting⟩ := h
  obtain ⟨after, rfl⟩ := (List.mem_inits _ _).mp hbefore
  obtain ⟨st, hstands, -⟩ := (stands_start hw given id).run hid before
  -- both are about to write, so nothing was written yet
  rw [Saves.areWriting, Bool.and_eq_true, hstands.saving, hstands.saving] at hwriting
  have hst (b : Bool) : ∃ told c, st b = .writing told c := by
    cases b with
    | false => exact Stage.isWriting_service hwriting.1
    | true => exact Stage.isWriting_service hwriting.2
  have hpassed (b : Bool) : ∃ c, (st b).passed? = some (w.store.configurations.get? id, c) := by
    obtain ⟨told, c, hb⟩ := hst b
    have hhistory := hstands.history
    generalize ((start w given).run before).world.store.configurations.get? id = current at hhistory
    cases hhistory with
    | unwritten _ htold =>
      have hc : (st b).passed? = some (told, c) := by rw [hb]; rfl
      exact ⟨c, htold b told c hc ▸ hc⟩
    | once k e _ wrote _ _ =>
      obtain ⟨told', c', hk⟩ := hst k
      rw [hk] at wrote
      cases wrote
    | twice k e d _ wrote _ _ _ =>
      have hwrote := wrote b
      rw [hb] at hwrote
      cases hwrote
  choose c hc using hpassed
  obtain ⟨st', hstands', hstay⟩ := hstands.run hid after
  rw [← run_append] at hstands'
  refine ⟨st', c, hstands', fun b => ?_⟩
  have hb := hover b
  rw [hstands'.saving] at hb
  exact Stage.eq_saved_of_isOver (hstay b _ (hc b)) hb

/-- What a call has returned is what it made of what it was told. -/
theorem Stands.exists_saved (h : a.Stands given id old st) {c : Configuration}
    (hc : (a.saving b).value? = some c) : ∃ told, st b = .saved told c := by
  rw [h.saving] at hc
  exact Stage.eq_saved_of_value? hc

/-- Calls that were not told the same do not both succeed for different organizations. -/
theorem Stands.organization_eq (h : a.Stands given id old st)
    (hsafe : ¬ BothTold old st ∨ old.isSome = true)
    (hsome : ∀ b, ((a.saving b).value?).isSome = true) :
    (given true).organization = (given false).organization := by
  have howner (b : Bool) {x : Configuration}
      (hx : a.world.store.configurations.get? id = some x) :
      x.organization = (given b).organization := by
    obtain ⟨c, hc⟩ := Option.isSome_iff_exists.mp (hsome b)
    obtain ⟨told, hst⟩ := h.exists_saved hc
    have hpassed : (st b).passed? = some (told, c) := by rw [hst]; rfl
    obtain ⟨_, hstored⟩ := h.made b told c hpassed
    exact (h.owner hsafe hpassed hx).trans (of_stored hstored).2.1
  obtain ⟨c, hc⟩ := Option.isSome_iff_exists.mp (hsome true)
  obtain ⟨told, hst⟩ := h.exists_saved hc
  obtain ⟨x, hx⟩ := h.exists_of_hasWritten (b := true) (by rw [hst]; rfl)
  exact (howner true hx).symm.trans (howner false hx)

/-- Calls that were not told the same store different versions. -/
theorem Stands.version_ne (h : a.Stands given id old st) (hnot : ¬ BothTold old st)
    {c : Bool → Configuration} (hc : ∀ b, (a.saving b).value? = some (c b)) :
    (c true).version ≠ (c false).version := by
  have hsaved (b : Bool) : ∃ told, st b = .saved told (c b) := h.exists_saved (hc b)
  have hmade {b : Bool} {told : Option Configuration} {d : Configuration}
      (hd : (st b).passed? = some (told, d)) : d = c b := by
    obtain ⟨_, hst⟩ := hsaved b
    rw [hst] at hd
    exact (Prod.mk.inj (Option.some.inj hd)).2.symm
  have hwrote (b : Bool) : (st b).hasWritten = true := by
    obtain ⟨_, hst⟩ := hsaved b
    rw [hst]
    rfl
  obtain ⟨b, e, f, told, first, second, -, htold⟩ := h.twice hwrote
  have hversion : f.version = e.version + 1 := by
    refine htold.resolve_left ?_
    rintro rfl
    refine hnot fun k => ?_
    by_cases hk : k = b
    · exact ⟨e, hk ▸ first⟩
    · exact ⟨f, Bool.eq_not_of_ne hk ▸ second⟩
  rw [hmade first, hmade second] at hversion
  cases b with
  | true =>
    rw [Bool.not_true] at hversion
    omega
  | false =>
    rw [Bool.not_false] at hversion
    omega

/-- Calls that have crossed and are over have both succeeded, and both have made the same of what was
stored at the start. -/
theorem Cross.succeed (hw : w.Steady) (hid : ∀ b, (given b).id = id) {turns : List Turn}
    (h : Cross w given turns)
    (hover : ∀ b, (((start w given).run turns).saving b).isOver = true) :
    ∃ c : Bool → Configuration, ∃ last,
      ((start w given).run turns).world.store.configurations.get? id = some (c last) ∧
      ∀ b, (((start w given).run turns).saving b).value? = some (c b) ∧
        (c b).organization = (given b).organization ∧
        (c b).version = (w.store.configurations.get? id).elim (given b).version
          (fun o => o.version + 1) ∧
        id ∈ ((start w given).run turns).world.store.configurationIds (given b).organization := by
  obtain ⟨st, c, hstands, hst⟩ := h.saved hw hid hover
  have hpassed (b : Bool) :
      (st b).passed? = some (w.store.configurations.get? id, c b) := by rw [hst]; rfl
  obtain ⟨b, e, f, told, -, second, hcurrent, -⟩ := hstands.twice fun b => by rw [hst]; rfl
  rw [hpassed] at second
  obtain ⟨-, rfl⟩ := Prod.mk.inj (Option.some.inj second)
  refine ⟨c, !b, hcurrent, fun k => ?_⟩
  obtain ⟨_, hstored⟩ := hstands.made k _ (c k) (hpassed k)
  refine ⟨?_, (of_stored hstored).2.1, version_of_stored hstored, hstands.indexed k _ _ (hst k)⟩
  rw [hstands.saving, hst]
  rfl

/-- **Two calls that save under one id** are safe unless they cross, or if something was stored under it
at the start: owners stay, indexes hold what belongs to their organization, and calls for different
organizations do not both succeed.  If they do not cross, they do not store the same version.  Crossing
calls both succeed, though both make the same of what was stored at the start: the last one to write
owns the id, and both organizations have it in their index. -/
theorem safe_unless_crossing (hw : w.Steady) (howned : w.store.Owned)
    (hid : (given true).id = (given false).id) (turns : List Turn) :
    let id := (given true).id
    let old := w.store.configurations.get? id
    let a := (start w given).run turns
    (¬ Cross w given turns ∨ old.isSome = true →
      (∀ before, before <+: turns →
        OwnersStay ((start w given).run before).world.store a.world.store) ∧
      (∀ org, ∀ i ∈ a.world.store.configurationIds org,
        a.world.store.configurations.Has Configuration.organization org i) ∧
      ((∀ b, ((a.saving b).value?).isSome = true) →
        (given true).organization = (given false).organization)) ∧
    (¬ Cross w given turns → ∀ c d, (a.saving true).value? = some c →
      (a.saving false).value? = some d → c.version ≠ d.version) ∧
    (Cross w given turns → (∀ b, (a.saving b).isOver = true) →
      ∃ c : Bool → Configuration, ∃ last,
        a.world.store.configurations.get? id = some (c last) ∧
        ∀ b, (a.saving b).value? = some (c b) ∧ (c b).organization = (given b).organization ∧
          (c b).version = old.elim (given b).version (fun o => o.version + 1) ∧
          id ∈ a.world.store.configurationIds (given b).organization) := by
  intro id old a
  have hid' (b : Bool) : (given b).id = id := by
    cases b with
    | true => rfl
    | false => exact hid.symm
  obtain ⟨st, hstands, hcross, hsafe⟩ := exists_stands hw howned hid' turns
  refine ⟨fun hnot => ?_, fun hnot c d hc hd => ?_, fun hdo hover => hdo.succeed hw hid' hover⟩
  · obtain ⟨hstore, hstay⟩ := hsafe hnot
    have hnot' : ¬ BothTold old st ∨ old.isSome = true := hnot.imp_left fun h hb => h (hcross hb)
    exact ⟨hstay, hstore.configurationIds, hstands.organization_eq hnot'⟩
  · refine hstands.version_ne (c := fun b => cond b c d) (fun hb => hnot (hcross hb)) fun b => ?_
    cases b with
    | true => exact hc
    | false => exact hd

/-- A configuration of no rules. -/
def plain (org : String) : Configuration :=
  { id := "c", organization := org, name := org, description := none, rules := [], output := {},
    version := 1, active := true, createdAt := none, updatedAt := none }

section
attribute [local instance] Host.bare

/-- Two save one after the other, the second one while the first still has to write its index. -/
theorem safe_unless_crossing_in_turn :
    let w := World.empty {} 0
    let given : Bool → Configuration := fun _ => plain "a"
    let turns : List Turn := [.act true, .act true, .act false, .act true, .act false, .act false,
      .tick 1, .act true, .act false]
    let a := (start w given).run turns
    w.Steady ∧ w.store.Owned ∧ ¬ Cross w given turns ∧
      (∀ org, ∀ i ∈ a.world.store.configurationIds org,
        a.world.store.configurations.Has Configuration.organization org i) ∧
      (∀ c d, (a.saving true).value? = some c → (a.saving false).value? = some d →
        c.version ≠ d.version) ∧
      ((a.saving true).value?).isSome = true ∧ ((a.saving false).value?).isSome = true := by
  intro w given turns a
  have h : w.Ordered := World.ordered_calls {} 0 []
  have hcross : ¬ Cross w given turns := by decide +kernel
  have hid : (given true).id = (given false).id := rfl
  obtain ⟨hsafe, hversions, -⟩ := safe_unless_crossing h.steady h.owned.store hid turns
  exact ⟨h.steady, h.owned.store, hcross, (hsafe (.inl hcross)).2.1, hversions hcross,
    by decide +kernel, by decide +kernel⟩

end

/-- **Crossing calls are not safe.**  Two organizations save under an id that is free; both read before
either writes.  Both succeed with the same version, the owner changes, and the index of the first holds
what belongs to the second. -/
theorem crossing_is_unsafe :
    let given : Bool → Configuration := fun b => if b then plain "a" else plain "b"
    let before : List Turn := [.act true, .act true, .act false, .act false, .act true, .act true]
    let turns : List Turn := before ++ [.act false, .act false]
    let a := (start (World.empty {} 0) given).run turns
    ((a.saving true).value?).map (fun c => (c.organization, c.version)) = some ("a", 1) ∧
      ((a.saving false).value?).map (fun c => (c.organization, c.version)) = some ("b", 1) ∧
      ((((start (World.empty {} 0) given).run before).world.store.configurations.get? "c").map
        Configuration.organization) = some "a" ∧
      ((a.world.store.configurations.get? "c").map Configuration.organization) = some "b" ∧
      a.world.store.configurationIds "a" = ["c"] := by
  decide +kernel

end Run

end Saves

end Configurations

end Sheetflow
