import Mathlib.Data.List.Chain
import Sheetflow.Proofs.Service.Exec

/-!
# What programs do on their way

A program changes the world command by command.  `Program.trail` lists the worlds it goes through,
and `Program.Gives` says that every command which the program may give, whatever the replies, is of
some kind.  So what each command of the kind keeps is kept all the way (`Program.isChain_trail`),
also where the program is stopped half-way, and whether its end is an error or not.

`Service.Gives` has a rule for each way services are put together.
-/

namespace Sheetflow

namespace World

/-- The world in which one more id has been made. -/
def counted (w : World) : World := { w with ids := w.ids + 1 }

end World

namespace Program
variable {α β : Type}

/-- The worlds that a program goes through, one behind each command and each new id. -/
def trail : Program α → World → List World
  | .done _, _ => []
  | .now next, w => (next w.time).trail w
  | .freshId kind next, w => w.counted :: (next (kind.id (w.ids + 1))).trail w.counted
  | .call c next, w => (w.perform c).1 :: (next (w.perform c).2).trail (w.perform c).1

/-- The trail ends where the program ends. -/
theorem getLast?_trail (p : Program α) (w : World) :
    (w :: p.trail w).getLast? = some (p.run w).1 := by
  induction p generalizing w with
  | done a => rfl
  | now next ih => exact ih _ w
  | freshId kind next ih => exact List.getLast?_cons_cons.trans (ih _ _)
  | call c next ih => exact List.getLast?_cons_cons.trans (ih _ _)

/-- Every command that a program may give at a time is of a kind. -/
def Gives (t : DateTime) (P : Command → Prop) : Program α → Prop
  | .done _ => True
  | .now next => (next t).Gives t P
  | .freshId _ next => ∀ id, (next id).Gives t P
  | .call c next => P c ∧ ∀ r, (next r).Gives t P

variable {t : DateTime} {P : Command → Prop}

theorem Gives.bind {p : Program α} (hp : p.Gives t P) {f : α → Program β}
    (hf : ∀ a, (f a).Gives t P) : (p.bind f).Gives t P := by
  induction p with
  | done a => exact hf a
  | now next ih => exact ih _ hp
  | freshId kind next ih => exact fun id => ih id (hp id)
  | call c next ih => exact ⟨hp.1, fun r => ih r (hp.2 r)⟩

/-- **What each command keeps is kept on the way.**  `I` holds in every world of the trail, and `R`
from each to the next. -/
theorem isChain_trail {I : World → Prop} {R : World → World → Prop}
    (htime : ∀ w, I w → w.time = t) (hcounted : ∀ w, I w → I w.counted ∧ R w w.counted)
    (hperform : ∀ w c, I w → P c → I (w.perform c).1 ∧ R w (w.perform c).1)
    {p : Program α} (hp : p.Gives t P) {w : World} (hw : I w) :
    (w :: p.trail w).IsChain R ∧ ∀ v ∈ p.trail w, I v := by
  induction p generalizing w with
  | done a => exact ⟨.singleton w, fun v hv => nomatch hv⟩
  | now next ih =>
    rw [trail, htime w hw]
    exact ih t hp hw
  | freshId kind next ih =>
    obtain ⟨hi, hr⟩ := hcounted w hw
    obtain ⟨hchain, hall⟩ := ih _ (hp _) hi
    exact ⟨.cons_cons hr hchain, List.forall_mem_cons.mpr ⟨hi, hall⟩⟩
  | call c next ih =>
    obtain ⟨hi, hr⟩ := hperform w c hw hp.1
    obtain ⟨hchain, hall⟩ := ih _ (hp.2 _) hi
    exact ⟨.cons_cons hr hchain, List.forall_mem_cons.mpr ⟨hi, hall⟩⟩

end Program

namespace Service
variable {α β : Type} {t : DateTime} {P : Command → Prop}

/-- Every command that a service may give at a time is of a kind. -/
structure Gives (t : DateTime) (P : Command → Prop) (p : Service α) : Prop where
  commands : Program.Gives t P p.run

theorem gives_pure (a : α) : Gives t P (pure a : Service α) := ⟨trivial⟩

theorem gives_throw (e : ServiceError) : Gives t P (throw e : Service α) := ⟨trivial⟩

theorem gives_result (r : Except ServiceError α) : Gives t P (result r) := ⟨trivial⟩

theorem gives_command {c : Command} (hc : P c) : Gives t P (command c) := ⟨hc, fun _ => trivial⟩

theorem gives_freshId (kind : IdKind) : Gives t P (freshId kind) := ⟨fun _ => trivial⟩

theorem Gives.bind {p : Service α} (hp : Gives t P p) {f : α → Service β}
    (hf : ∀ a, Gives t P (f a)) : Gives t P (p >>= f) :=
  ⟨Program.Gives.bind hp.commands fun r =>
    match r with
    | .ok a => (hf a).commands
    | .error _ => trivial⟩

theorem Gives.attempt {p : Service α} (hp : Gives t P p) : Gives t P (attempt p) :=
  ⟨Program.Gives.bind hp.commands fun _ => trivial⟩

/-- A service that asks for the time gets the time. -/
theorem gives_now_bind {f : DateTime → Service β} (hf : Gives t P (f t)) :
    Gives t P (now >>= f) := ⟨hf.commands⟩

end Service

namespace World

/-- What an operation comes to in every case: when it fails, and when it does what it is for. -/
theorem outcome_induction {ρ : Type} {Q : World × Except Fault ρ → Prop} (w : World) (op : Operation)
    {act : World → World × Except Fault ρ}
    (hfail : ∀ faults connected f, Q ({ w with faults, connected }, .error f))
    (hact : ∀ faults connected, Q (act { w with faults, connected })) : Q (w.attempt op act) := by
  obtain ⟨faults, connected, -, h | ⟨f, -, h⟩⟩ := attempt_cases w op act
  · rw [h]
    exact hact faults connected
  · rw [h]
    exact hfail faults connected f

/-- What an operation leaves in every case. -/
theorem attempt_induction {ρ : Type} {Q : World → Prop} (w : World) (op : Operation)
    {act : World → World × Except Fault ρ}
    (hfail : ∀ faults connected, Q { w with faults, connected })
    (hact : ∀ faults connected, Q (act { w with faults, connected }).1) : Q (w.attempt op act).1 :=
  outcome_induction (Q := fun r => Q r.1) w op (fun faults connected _ => hfail faults connected) hact

end World

end Sheetflow
