import Sheetflow.Proofs.Service.Exec

/-!
# Programs and all replies they may get

What a command replies depends on what others have written meanwhile, and any
command may fail at any time.  `Program.Ends p log a` says that `p` ends with `a`
if it gets the replies that `log` lists; nothing ties a reply to the ones before.
So what holds of all ends holds under every pattern of failures, and whatever
others do.  What a program does in a world is one of its ends (`exec_ends`).

`Service.Ends` has a rule for each way services are put together, to be read from
the end of a service to the ends of its parts.
-/

namespace Sheetflow

/-- A command and what it replied. -/
structure Exchange where
  command : Command
  reply : Except Fault command.Reply

namespace Program
variable {α β : Type}

/-- The program ends with this if its commands, in this order, get these replies.  The time and new
ids may be any. -/
inductive Ends : Program α → List Exchange → α → Prop
  | done (a : α) : Ends (.done a) [] a
  | now {next : DateTime → Program α} {log : List Exchange} {a : α} (t : DateTime) :
    Ends (next t) log a → Ends (.now next) log a
  | freshId {kind : IdKind} {next : String → Program α} {log : List Exchange} {a : α} (id : String) :
    Ends (next id) log a → Ends (.freshId kind next) log a
  | call {c : Command} {next : Except Fault c.Reply → Program α} {log : List Exchange} {a : α}
    (r : Except Fault c.Reply) : Ends (next r) log a → Ends (.call c next) (⟨c, r⟩ :: log) a

theorem Ends.of_bind {p : Program α} {f : α → Program β} {log : List Exchange} {b : β}
    (h : (p.bind f).Ends log b) :
    ∃ before a after, log = before ++ after ∧ p.Ends before a ∧ (f a).Ends after b := by
  induction p generalizing log with
  | done a => exact ⟨[], a, log, rfl, .done a, h⟩
  | now next ih =>
    obtain _ | ⟨t, h⟩ := h
    obtain ⟨before, a, after, he, hp, hf⟩ := ih t h
    exact ⟨before, a, after, he, .now t hp, hf⟩
  | freshId kind next ih =>
    obtain _ | _ | ⟨id, h⟩ := h
    obtain ⟨before, a, after, he, hp, hf⟩ := ih id h
    exact ⟨before, a, after, he, .freshId id hp, hf⟩
  | call c next ih =>
    obtain _ | _ | _ | ⟨r, h⟩ := h
    obtain ⟨before, a, after, rfl, hp, hf⟩ := ih r h
    exact ⟨_, a, after, rfl, .call r hp, hf⟩

theorem exists_ends_run (p : Program α) (w : World) : ∃ log, p.Ends log (p.run w).2 := by
  induction p generalizing w with
  | done a => exact ⟨[], .done a⟩
  | now next ih =>
    obtain ⟨log, h⟩ := ih w.time w
    exact ⟨log, .now _ h⟩
  | freshId kind next ih =>
    obtain ⟨log, h⟩ := ih (kind.id (w.ids + 1)) { w with ids := w.ids + 1 }
    exact ⟨log, .freshId _ h⟩
  | call c next ih =>
    obtain ⟨log, h⟩ := ih (w.perform c).2 (w.perform c).1
    exact ⟨_, .call _ h⟩

end Program

namespace Service
variable {α β : Type} {log : List Exchange}

/-- The service ends so if its commands get these replies. -/
structure Ends (p : Service α) (log : List Exchange) (r : Except ServiceError α) : Prop where
  program : Program.Ends p.run log r

/-- **Whatever a service does in a world is one of its ends.** -/
theorem exec_ends (p : Service α) (w : World) : ∃ log, p.Ends log (exec p w).2 := by
  obtain ⟨log, h⟩ := Program.exists_ends_run p.run w
  exact ⟨log, ⟨h⟩⟩

namespace Ends
variable {a : α} {r : Except ServiceError α} {p : Service α} {f : α → Service β}
  {s : Except ServiceError β}

theorem of_pure (h : Ends (pure a) log r) : log = [] ∧ r = .ok a := by
  obtain ⟨_ | _⟩ := h
  exact ⟨rfl, rfl⟩

theorem of_throw {e : ServiceError} (h : Ends (throw e : Service α) log r) :
    log = [] ∧ r = .error e := by
  obtain ⟨_ | _⟩ := h
  exact ⟨rfl, rfl⟩

theorem of_result {q : Except ServiceError α} (h : Ends (result q) log r) : log = [] ∧ r = q := by
  obtain ⟨_ | _⟩ := h
  exact ⟨rfl, rfl⟩

theorem of_now {r : Except ServiceError DateTime} (h : Ends now log r) :
    log = [] ∧ ∃ t, r = .ok t := by
  obtain ⟨_ | ⟨t, _ | _⟩⟩ := h
  exact ⟨rfl, t, rfl⟩

theorem of_command {c : Command} {r : Except ServiceError c.Reply} (h : Ends (command c) log r) :
    ∃ q, log = [⟨c, q⟩] ∧ r = q.mapError .unavailable := by
  obtain ⟨_ | _ | _ | ⟨q, _ | _⟩⟩ := h
  exact ⟨q, rfl, rfl⟩

/-- What comes behind a service is not begun if the service fails. -/
theorem of_bind (h : Ends (p >>= f) log s) :
    (∃ e, p.Ends log (.error e) ∧ s = .error e) ∨
      ∃ before a after, log = before ++ after ∧ p.Ends before (.ok a) ∧ (f a).Ends after s := by
  obtain ⟨before, r, after, rfl, hp, hf⟩ := Program.Ends.of_bind h.program
  cases r with
  | error e =>
    obtain ⟨rfl, rfl⟩ := of_throw ⟨hf⟩
    rw [List.append_nil]
    exact .inl ⟨e, ⟨hp⟩, rfl⟩
  | ok a => exact .inr ⟨before, a, after, rfl, ⟨hp⟩, ⟨hf⟩⟩

theorem of_attempt {s : Except ServiceError (Except ServiceError α)} (h : Ends (attempt p) log s) :
    ∃ r, p.Ends log r ∧ s = .ok r := by
  obtain ⟨before, r, after, rfl, hp, _ | _⟩ := Program.Ends.of_bind h.program
  rw [List.append_nil]
  exact ⟨r, ⟨hp⟩, rfl⟩

theorem of_attempt_bind {f : Except ServiceError α → Service β}
    (h : Ends (attempt p >>= f) log s) :
    ∃ before r after, log = before ++ after ∧ p.Ends before r ∧ (f r).Ends after s := by
  obtain ⟨e, hp, -⟩ | ⟨before, r, after, rfl, hp, hf⟩ := h.of_bind
  · obtain ⟨r, -, he⟩ := hp.of_attempt
    cases he
  · obtain ⟨r, hp, he⟩ := hp.of_attempt
    obtain rfl := Except.ok.inj he
    exact ⟨before, _, after, rfl, hp, hf⟩

/-- What is made of the value of a service is made when all commands were given. -/
theorem of_bind_pure {g : α → β} (h : Ends (p >>= fun a => pure (g a)) log s) :
    ∃ r, p.Ends log r ∧ s = r.map g := by
  obtain ⟨e, hp, rfl⟩ | ⟨before, a, after, rfl, hp, hafter⟩ := h.of_bind
  · exact ⟨_, hp, rfl⟩
  · obtain ⟨rfl, rfl⟩ := hafter.of_pure
    rw [List.append_nil]
    exact ⟨_, hp, rfl⟩

theorem of_now_bind {f : DateTime → Service β} (h : Ends (now >>= f) log s) :
    ∃ t, (f t).Ends log s := by
  obtain ⟨e, hp, -⟩ | ⟨before, t, after, rfl, hp, hf⟩ := h.of_bind
  · obtain ⟨-, t, ht⟩ := hp.of_now
    cases ht
  · obtain ⟨rfl, -⟩ := hp.of_now
    exact ⟨t, hf⟩

/-- A command is given in any case; only its reply says if the service goes on. -/
theorem of_command_bind {c : Command} {f : c.Reply → Service β} (h : Ends (command c >>= f) log s) :
    (∃ e, log = [⟨c, .error e⟩] ∧ s = .error (.unavailable e)) ∨
      ∃ q after, log = ⟨c, .ok q⟩ :: after ∧ (f q).Ends after s := by
  obtain ⟨e, hp, rfl⟩ | ⟨before, a, after, rfl, hp, hf⟩ := h.of_bind
  · obtain ⟨q, rfl, hq⟩ := hp.of_command
    cases q with
    | error e' =>
      obtain rfl := Except.error.inj hq
      exact .inl ⟨e', rfl, rfl⟩
    | ok q => cases hq
  · obtain ⟨q, rfl, hq⟩ := hp.of_command
    cases q with
    | error e => cases hq
    | ok q =>
      obtain rfl := Except.ok.inj hq
      exact .inr ⟨_, after, rfl, hf⟩

end Ends

end Service

end Sheetflow
