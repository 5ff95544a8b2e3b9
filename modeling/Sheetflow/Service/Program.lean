import Sheetflow.Service.Error
import Sheetflow.Store.Basic

/-!
# Programs over the store

A service is a program: a finite tree of commands to the store, the queue and the files, which goes on
with the reply to each. A command may fail instead of replying. Commands are carried out one at a time
and each at once, except for `Command.updateJob`, which watches the job while it computes the new one
and starts again if the job changed meanwhile. The clock and the source of ids never fail.
-/

namespace Sheetflow

inductive Command where
  | getConfiguration (id : String)
  | setConfiguration (c : Configuration)
  | getConfigurations (ids : List String)
  | indexConfiguration (organization id : String)
  | configurationIds (organization : String)
  /-- Store a job unless there is one of that id; was it stored? -/
  | createJob (j : Job)
  | getJob (id : String)
  | getJobs (ids : List String)
  | indexJob (j : Job)
  | newestJobs (organization : String) (stop : Int)
  /-- Replace a job by what `update` makes of it. -/
  | updateJob (id : String) (update : Option Job → Except ServiceError Job)
  | increment (c : Counter)
  | decrement (c : Counter)
  | resetCounter (c : Counter)
  | readCounter (c : Counter)
  | setLifetime (c : Counter) (seconds : Nat)
  /-- Is the store there? -/
  | ping
  | enqueue (t : Task)
  | queueLength
  | writeFile (p : Path) (bs : Bytes)
  | readFile (p : Path)

/-- What a command replies. -/
def Command.Reply : Command → Type
  | .getConfiguration _ => Option Configuration
  | .setConfiguration _ => Unit
  | .getConfigurations _ => List Configuration
  | .indexConfiguration _ _ => Unit
  | .configurationIds _ => List String
  | .createJob _ => Bool
  | .getJob _ => Option Job
  | .getJobs _ => List Job
  | .indexJob _ => Unit
  | .newestJobs _ _ => List String
  | .updateJob _ _ => Except ServiceError Job
  | .increment _ => Int
  | .decrement _ => Int
  | .resetCounter _ => Unit
  | .readCounter _ => Option Int
  | .setLifetime _ _ => Unit
  | .ping => Bool
  | .enqueue _ => Unit
  | .queueLength => Nat
  | .writeFile _ _ => Except FileFault Unit
  | .readFile _ => Except FileFault (Option Bytes)

/-- What ids are made for. -/
inductive IdKind where
  | job
  | configuration
deriving DecidableEq, Repr

inductive Program (α : Type) where
  | done (a : α)
  | now (next : DateTime → Program α)
  | freshId (kind : IdKind) (next : String → Program α)
  | call (c : Command) (next : Except Fault c.Reply → Program α)

namespace Program

variable {α β : Type}

def bind (p : Program α) (f : α → Program β) : Program β :=
  match p with
  | .done a => f a
  | .now next => .now fun t => (next t).bind f
  | .freshId kind next => .freshId kind fun id => (next id).bind f
  | .call c next => .call c fun r => (next r).bind f

instance : Monad Program where
  pure := .done
  bind := bind

theorem bind_done (p : Program α) : p.bind .done = p := by
  induction p with
  | done a => rfl
  | now next ih => simp only [bind, ih]
  | freshId kind next ih => simp only [bind, ih]
  | call c next ih => simp only [bind, ih]

theorem bind_assoc {γ : Type} (p : Program α) (f : α → Program β) (g : β → Program γ) :
    (p.bind f).bind g = p.bind fun a => (f a).bind g := by
  induction p with
  | done a => rfl
  | now next ih => simp only [bind, ih]
  | freshId kind next ih => simp only [bind, ih]
  | call c next ih => simp only [bind, ih]

end Program

/-- Programs that may end with an error. -/
abbrev Service (α : Type) := ExceptT ServiceError Program α

namespace Service

variable {α : Type}

/-- Carry out a command; its failure is an error. -/
def command (c : Command) : Service c.Reply :=
  ExceptT.mk (.call c fun r => .done (r.mapError .unavailable))

def now : Service DateTime := ExceptT.mk (.now fun t => .done (.ok t))

def freshId (kind : IdKind) : Service String := ExceptT.mk (.freshId kind fun id => .done (.ok id))

def result (r : Except ServiceError α) : Service α := ExceptT.mk (.done r)

/-- The outcome of a program, be it an error or not. -/
def attempt (p : Service α) : Service (Except ServiceError α) :=
  ExceptT.mk (p.run.bind fun r => .done (.ok r))

end Service

end Sheetflow
