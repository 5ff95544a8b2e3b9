import Mathlib.Logic.Function.Basic
import Sheetflow.Proofs.Service.Creation

/-!
# Counters that expire

The store knows the lifetime that a counter was given, and lets it run from then on.  `Expiring` is a
world together with the times at which lifetimes were given, so that it can be told when a counter
expires (`Expiring.expiry`).  Setting a counter takes its lifetime away, and giving it one again starts
it anew.

A service does the same as in the world alone (`Expiring.exec_world`), and as long as it only counts up
and down all counters expire when they did (`Expiring.expiry_exec_of_gives`).
-/

namespace Sheetflow

open Service

/-- A world, and the times at which counters were last given a lifetime. -/
structure Expiring where
  world : World
  given : Counter → Instant

namespace Expiring
variable {α β : Type} {x : Expiring}

def count (x : Expiring) (c : Counter) : Int := x.world.store.count c

def withStore (x : Expiring) (t : Store) : Expiring := ⟨x.world.withStore t, x.given⟩

/-- Limit the lifetime of a counter from now on. -/
def withLifetime (x : Expiring) (c : Counter) (seconds : Nat) : Expiring :=
  ⟨x.world.withStore (x.world.store.setLifetime c seconds), Function.update x.given c x.world.clock⟩

/-- The time at which a counter expires, if it does. -/
def expiry (x : Expiring) (c : Counter) : Option Instant :=
  (x.world.store.lifetimes.get? c).map fun (seconds : Nat) => x.given c + seconds * microsPerSecond

theorem expiry_congr {y : Expiring} (hlifetimes : y.world.store.lifetimes = x.world.store.lifetimes)
    (hgiven : y.given = x.given) : y.expiry = x.expiry := by
  funext c
  rw [expiry, hlifetimes, hgiven, expiry]

/-- When lifetimes were given, once a command was replied to. -/
def givenAfter (x : Expiring) : (c : Command) → Except Fault c.Reply → Counter → Instant
  | .setLifetime c _, .ok _ => Function.update x.given c x.world.clock
  | _, _ => x.given

/-- Carry out a command. -/
def perform (x : Expiring) (c : Command) : Expiring × Except Fault c.Reply :=
  (⟨(x.world.perform c).1, x.givenAfter c (x.world.perform c).2⟩, (x.world.perform c).2)

/-- Carry out a program. -/
def run : Program α → Expiring → Expiring × α
  | .done a, x => (x, a)
  | .now next, x => run (next x.world.time) x
  | .freshId kind next, x =>
    run (next (kind.id (x.world.ids + 1))) { x with world := x.world.counted }
  | .call c next, x => run (next (x.perform c).2) (x.perform c).1

/-- Carry out a service. -/
def exec (p : Service α) (x : Expiring) : Expiring × Except ServiceError α := run p.run x

/-- **A program does what it does in the world alone.** -/
theorem run_world (p : Program α) (x : Expiring) :
    (run p x).1.world = (p.run x.world).1 ∧ (run p x).2 = (p.run x.world).2 := by
  induction p generalizing x with
  | done a => exact ⟨rfl, rfl⟩
  | now next ih => exact ih _ x
  | freshId kind next ih => exact ih _ _
  | call c next ih => exact ih _ (x.perform c).1

theorem exec_world (p : Service α) (x : Expiring) :
    (exec p x).1.world = (Service.exec p x.world).1 ∧ (exec p x).2 = (Service.exec p x.world).2 :=
  run_world p.run x

theorem run_bind (p : Program α) (f : α → Program β) (x : Expiring) :
    run (p.bind f) x = run (f (run p x).2) (run p x).1 := by
  induction p generalizing x with
  | done a => rfl
  | now next ih => exact ih _ _
  | freshId kind next ih => exact ih _ _
  | call c next ih => exact ih _ _

theorem exec_bind_of_ok {p : Service α} {x' : Expiring} {a : α} (h : exec p x = (x', .ok a))
    (f : α → Service β) : exec (p >>= f) x = exec (f a) x' := by
  show run (Program.bind p.run _) x = _
  rw [run_bind, show run p.run x = _ from h]
  rfl

theorem exec_now (x : Expiring) : exec now x = (x, .ok x.world.time) := rfl

theorem exec_command_of_perform {c : Command} {w : World} {r : c.Reply}
    (h : x.world.perform c = (w, .ok r)) :
    exec (command c) x = (⟨w, x.givenAfter c (.ok r)⟩, .ok r) := by
  show ((x.perform c).1, (x.perform c).2.mapError ServiceError.unavailable) = _
  rw [perform, h]
  rfl

/-! ### Services that only count -/

/-- A command that counts up or down. -/
inductive Counts : Command → Prop
  | increment (c : Counter) : Counts (.increment c)
  | decrement (c : Counter) : Counts (.decrement c)

theorem Counts.clock_perform {c : Command} (hc : Counts c) (w : World) :
    (w.perform c).1.clock = w.clock := by
  cases hc <;> exact World.clock_perform rfl w

theorem Counts.expiry_perform {c : Command} (hc : Counts c) (x : Expiring) :
    (x.perform c).1.expiry = x.expiry := by
  have hkept {op : Operation} {act : World → World × Except Fault Int}
      (h : ∀ w, (act w).1.store.lifetimes = w.store.lifetimes) :
      (x.world.attempt op act).1.store.lifetimes = x.world.store.lifetimes :=
    World.attempt_induction (Q := fun w => w.store.lifetimes = x.world.store.lifetimes) x.world op
      (fun _ _ => rfl) fun _ _ => h _
  cases hc with
  | increment d => exact expiry_congr (hkept fun _ => rfl) rfl
  | decrement d => exact expiry_congr (hkept fun _ => rfl) rfl

theorem expiry_run_of_gives {p : Program α} (hp : p.Gives x.world.time Counts) :
    (run p x).1.expiry = x.expiry := by
  induction p generalizing x with
  | done a => rfl
  | now next ih => exact ih _ hp
  | freshId kind next ih =>
    have h := ih (kind.id (x.world.ids + 1)) (x := { x with world := x.world.counted }) (hp _)
    exact h.trans rfl
  | call c next ih =>
    obtain ⟨hc, hnext⟩ := hp
    have htime : (x.perform c).1.world.time = x.world.time :=
      congrArg DateTime.ofInstant (hc.clock_perform x.world)
    exact (ih _ (htime ▸ hnext _)).trans (hc.expiry_perform x)

/-- **What only counts changes no expiry.** -/
theorem expiry_exec_of_gives {p : Service α} (hp : Gives x.world.time Counts p) :
    (exec p x).1.expiry = x.expiry :=
  expiry_run_of_gives hp.commands

/-! ### Commands in a steady world -/

section Steady
variable (hx : x.world.Steady)
include hx

theorem exec_increment (c : Counter) :
    @exec Int (command (.increment c)) x =
      (x.withStore (x.world.store.addTo c 1), .ok (x.count c + 1)) :=
  exec_command_of_perform (World.perform_increment hx c)

theorem exec_decrement (c : Counter) :
    @exec Int (command (.decrement c)) x =
      (x.withStore (x.world.store.addTo c (-1)), .ok (x.count c - 1)) :=
  exec_command_of_perform (World.perform_decrement hx c)

theorem exec_resetCounter (c : Counter) :
    exec (command (.resetCounter c)) x = (x.withStore (x.world.store.setCounter c 0), .ok ()) := by
  refine exec_command_of_perform ?_
  rw [World.perform, World.attempt_of_steady hx (by decide)]
  rfl

theorem exec_setLifetime (c : Counter) (seconds : Nat) :
    exec (command (.setLifetime c seconds)) x = (x.withLifetime c seconds, .ok ()) :=
  exec_command_of_perform (World.perform_setLifetime hx c seconds)

end Steady

/-- A counter that was set expires no more, and the others as before. -/
theorem expiry_setCounter (x : Expiring) (c : Counter) (n : Int) :
    (x.withStore (x.world.store.setCounter c n)).expiry = Function.update x.expiry c none := by
  funext k
  rw [expiry, withStore, World.withStore_store, Store.setCounter]
  by_cases hk : k = c
  · rw [hk, Function.update_self, Table.get?_erase_self, Option.map_none]
  · rw [Function.update_of_ne hk, Table.get?_erase_ne _ hk, expiry]

/-- A lifetime that is given starts at once. -/
theorem expiry_withLifetime {c : Counter} (hc : (x.world.store.counters.get? c).isSome = true)
    (seconds : Nat) :
    (x.withLifetime c seconds).expiry =
      Function.update x.expiry c (some (x.world.clock + seconds * microsPerSecond)) := by
  have hlifetimes : (x.withLifetime c seconds).world.store.lifetimes =
      x.world.store.lifetimes.set c seconds := by
    rw [withLifetime, World.withStore_store, Store.setLifetime, if_pos hc]
  have hgiven : (x.withLifetime c seconds).given = Function.update x.given c x.world.clock := rfl
  funext k
  rw [expiry, hlifetimes, hgiven]
  by_cases hk : k = c
  · rw [hk, Function.update_self, Table.get?_set_self, Option.map_some, Function.update_self]
  · rw [Function.update_of_ne hk, Table.get?_set_ne _ _ hk, Function.update_of_ne hk, expiry]

end Expiring

end Sheetflow
