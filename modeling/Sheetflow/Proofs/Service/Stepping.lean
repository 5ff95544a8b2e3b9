import Sheetflow.Proofs.Service.Exec

/-!
# Services step by step

A command is carried out at once, but between two commands of a service those of others may come.
`Service.step` is one step of a service, with one command at most.
-/

namespace Sheetflow

namespace Program
variable {α : Type}

/-- A step of a program, with one command at most. -/
def step : Program α → World → World × Program α
  | .done a, w => (w, .done a)
  | .now next, w => (w, next w.time)
  | .freshId kind next, w => ({ w with ids := w.ids + 1 }, next (kind.id (w.ids + 1)))
  | .call c next, w => ((w.perform c).1, next (w.perform c).2)

/-- A program that nobody disturbs is carried out step by step. -/
theorem run_step (p : Program α) (w : World) : (p.step w).2.run (p.step w).1 = p.run w := by
  cases p <;> rfl

end Program

namespace Service
variable {α β : Type}

def step (p : Service α) (w : World) : World × Service α :=
  ((Program.step p.run w).1, ExceptT.mk (Program.step p.run w).2)

/-- What a service has returned. -/
def value? (p : Service α) : Option α :=
  match p.run with
  | .done (.ok a) => some a
  | _ => none

def isOver (p : Service α) : Bool :=
  match p.run with
  | .done _ => true
  | _ => false

/-- The command that a service gives in its next step. -/
def command? (p : Service α) : Option Command :=
  match p.run with
  | .call c _ => some c
  | _ => none

theorem step_command_bind {c : Command} {w w' : World} {r : c.Reply} (h : w.perform c = (w', .ok r))
    (f : c.Reply → Service β) : step (command c >>= f) w = (w', f r) := by
  have hstep : step (command c >>= f) w =
      ((w.perform c).1, result ((w.perform c).2.mapError .unavailable) >>= f) := rfl
  rw [hstep, h]
  rfl

theorem step_bind {p p' : Service α} {w w' : World} (h : p.step w = (w', p'))
    (hp : p.isOver = false) (f : α → Service β) : (p >>= f).step w = (w', p' >>= f) := by
  have hstep : (p >>= f).step w = ((p.step w).1, (p.step w).2 >>= f) := by
    cases p with
    | done r => cases hp
    | now next => rfl
    | freshId kind next => rfl
    | call c next => rfl
  rw [hstep, h]

end Service

end Sheetflow
