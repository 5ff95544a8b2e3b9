import Sheetflow.Service.World

/-!
# Services carried out in a world

`Service.exec` carries out a service in a world.  It has one equation for each
way services are put together, and `World.attempt_cases` says what a call of an
operation comes to: what the operation does, or one of the planned faults.
-/

namespace Sheetflow

namespace Program
variable {α β : Type}

theorem run_bind (p : Program α) (f : α → Program β) (w : World) :
    (p.bind f).run w = (f (p.run w).2).run (p.run w).1 := by
  induction p generalizing w with
  | done a => rfl
  | now next ih => exact ih _ _
  | freshId kind next ih => exact ih _ _
  | call c next ih => exact ih _ _

end Program

namespace Service
variable {α β : Type}

/-- Carry out a service in a world. -/
def exec (p : Service α) (w : World) : World × Except ServiceError α := Program.run p.run w

theorem exec_pure (a : α) (w : World) : exec (pure a) w = (w, .ok a) := rfl

theorem exec_bind (p : Service α) (f : α → Service β) (w : World) :
    exec (p >>= f) w =
      match exec p w with
      | (w, .ok a) => exec (f a) w
      | (w, .error e) => (w, .error e) := by
  show Program.run (Program.bind p.run _) w = _
  rw [Program.run_bind]
  unfold exec
  rcases Program.run p.run w with ⟨w', r⟩
  cases r <;> rfl

theorem exec_bind_of_ok {p : Service α} {w w' : World} {a : α} (h : exec p w = (w', .ok a))
    (f : α → Service β) : exec (p >>= f) w = exec (f a) w' := by
  rw [exec_bind, h]

theorem exec_bind_of_error {p : Service α} {w w' : World} {e : ServiceError}
    (h : exec p w = (w', .error e)) (f : α → Service β) : exec (p >>= f) w = (w', .error e) := by
  rw [exec_bind, h]

theorem exec_attempt (p : Service α) (w : World) :
    exec (attempt p) w = ((exec p w).1, .ok (exec p w).2) := by
  show Program.run (Program.bind p.run _) w = _
  rw [Program.run_bind]
  rfl

theorem exec_now (w : World) : exec now w = (w, .ok w.time) := rfl

theorem exec_command (c : Command) (w : World) :
    exec (command c) w = ((w.perform c).1, (w.perform c).2.mapError .unavailable) := rfl

theorem exec_command_bind_of_ok {c : Command} {w : World} {r : c.Reply}
    (h : (w.perform c).2 = .ok r) (f : c.Reply → Service β) :
    exec (command c >>= f) w = exec (f r) (w.perform c).1 := by
  rw [exec_bind_of_ok (by rw [exec_command, h]; rfl)]

theorem exec_command_bind_of_error {c : Command} {w : World} {e : Fault}
    (h : (w.perform c).2 = .error e) (f : c.Reply → Service β) :
    exec (command c >>= f) w = ((w.perform c).1, .error (.unavailable e)) := by
  rw [exec_bind_of_error (by rw [exec_command, h]; rfl)]

end Service

namespace World

theorem countCall_faults (op : Operation) (fs : List PlannedFault) :
    (countCall op fs).1.map PlannedFault.fault = fs.map PlannedFault.fault := by
  induction fs with
  | nil => rfl
  | cons f fs ih =>
    simp only [countCall]
    split
    · split <;> rfl
    · rw [List.map_cons, ih, List.map_cons]

theorem mem_of_countCall {op : Operation} {fs : List PlannedFault} {f : Fault}
    (h : (countCall op fs).2 = some f) : f ∈ fs.map PlannedFault.fault := by
  induction fs with
  | nil => cases h
  | cons g fs ih =>
    rw [List.map_cons, List.mem_cons]
    simp only [countCall] at h
    split at h
    · split at h
      · cases h
      · exact .inl (Option.some.inj h).symm
    · exact .inr (ih h)

/-- **A call of an operation** does what the operation does or fails with a planned fault; before
that only the faults are counted and the connection is noted. -/
theorem attempt_cases {ρ : Type} (w : World) (op : Operation)
    (act : World → World × Except Fault ρ) :
    ∃ faults connected, faults.map PlannedFault.fault = w.faults.map PlannedFault.fault ∧
      (w.attempt op act = act { w with faults, connected } ∨
        ∃ f ∈ w.faults.map PlannedFault.fault,
          w.attempt op act = ({ w with faults, connected }, .error f)) := by
  refine ⟨(countCall op w.faults).1, w.connected || op.isOnStore, countCall_faults op w.faults, ?_⟩
  unfold attempt
  cases hf : (countCall op w.faults).2 with
  | none => exact .inl (by simp only [hf])
  | some f => exact .inr ⟨f, mem_of_countCall hf, by simp only [hf]⟩

/-- A job that nobody else writes meanwhile is replaced, unless a command fails. -/
theorem updateJob_of_ok {w : World} {id : String} {update : Option Job → Except ServiceError Job}
    {j : Job} (hj : update (w.store.jobs.get? id) = .ok j) :
    (updateJob id update [] w).2 = .ok (.ok j) ∨
      ∃ f ∈ w.faults.map PlannedFault.fault, (updateJob id update [] w).2 = .error f := by
  rw [updateJob]
  obtain ⟨fs1, c1, h1, e1 | ⟨f, hf, e1⟩⟩ := attempt_cases w .watch _
  case inr => exact .inr ⟨f, hf, by rw [e1]⟩
  rw [e1]
  obtain ⟨fs2, c2, h2, e2 | ⟨f, hf, e2⟩⟩ :=
    attempt_cases { w with faults := fs1, connected := c1 } .get _
  case inr => exact .inr ⟨f, h1 ▸ hf, by rw [e2]⟩
  rw [e2]
  simp only [hj]
  obtain ⟨fs3, c3, h3, e3 | ⟨f, hf, e3⟩⟩ :=
    attempt_cases { w with faults := fs2, connected := c2 } .exec _
  case inr => exact .inr ⟨f, h1 ▸ h2 ▸ hf, by rw [e3]⟩
  rw [e3]
  exact .inl rfl

end World

end Sheetflow
