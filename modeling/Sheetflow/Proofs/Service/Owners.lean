import Sheetflow.Proofs.Job.Record
import Sheetflow.Proofs.Service.Submitting
import Sheetflow.Proofs.Service.Trail

/-!
# Owners

Every configuration and every job belongs to an organization, and so does every count.  A store is in
order if what is indexed for an organization is there and belongs to it (`Store.Owned`).  A service
that works for one organization spares what belongs to others (`World.Spares`) and leaves the store in
order, wherever it fails on its way.  `Service.Tends` says both, and what is known of its result; it has
a rule for each way services are put together, so that each service is gone through once.
-/

namespace Sheetflow

open Service

/-! ### Tables whose entries have owners -/

namespace Table
variable {α : Type} {owner : α → String} {org other : String} {t u v : Table String α} {k : String}

/-- An entry of the key is there, and the organization owns it. -/
def Has (owner : α → String) (org : String) (t : Table String α) (k : String) : Prop :=
  ∃ a, t.get? k = some a ∧ owner a = org

/-- If an entry of the key is there, the organization owns it. -/
def Leaves (owner : α → String) (org : String) (t : Table String α) (k : String) : Prop :=
  ∀ a, t.get? k = some a → owner a = org

theorem Has.leaves (h : t.Has owner org k) : t.Leaves owner org k := by
  obtain ⟨a, ha, rfl⟩ := h
  intro b hb
  rw [Option.some.inj (hb.symm.trans ha)]

/-- Entries have their keys as names. -/
def Keyed (name : α → String) (t : Table String α) : Prop := ∀ k a, t.get? k = some a → name a = k

theorem Keyed.set {name : α → String} (h : t.Keyed name) {b : α} (hb : name b = k) :
    (t.set k b).Keyed name := by
  intro l a hl
  by_cases hkl : l = k
  · rw [hkl, get?_set_self] at hl
    rw [hkl, ← hb, Option.some.inj hl]
  · rw [get?_set_ne _ _ hkl] at hl
    exact h l a hl

/-- What others own than an organization is the same in both tables, and owners stay. -/
structure Spares (owner : α → String) (org : String) (t u : Table String α) : Prop where
  stays : ∀ k a, t.get? k = some a → ∃ b, u.get? k = some b ∧ owner b = owner a
  others : ∀ k a, owner a ≠ org → (u.get? k = some a ↔ t.get? k = some a)

namespace Spares

theorem refl (t : Table String α) : t.Spares owner org t :=
  ⟨fun _ a ha => ⟨a, ha, rfl⟩, fun _ _ _ => Iff.rfl⟩

theorem trans (h : t.Spares owner org u) (g : u.Spares owner org v) : t.Spares owner org v := by
  refine ⟨fun k a ha => ?_, fun k a ha => (g.others k a ha).trans (h.others k a ha)⟩
  obtain ⟨b, hb, hba⟩ := h.stays k a ha
  obtain ⟨c, hc, hcb⟩ := g.stays k b hb
  exact ⟨c, hc, hcb.trans hba⟩

theorem set (hk : t.Leaves owner org k) {b : α} (hb : owner b = org) :
    t.Spares owner org (t.set k b) := by
  refine ⟨fun l a ha => ?_, fun l a ha => ?_⟩
  · by_cases hl : l = k
    · rw [hl] at ha ⊢
      exact ⟨b, get?_set_self _ _ _, hb.trans (hk a ha).symm⟩
    · exact ⟨a, (get?_set_ne _ _ hl).trans ha, rfl⟩
  · by_cases hl : l = k
    · rw [hl, get?_set_self]
      constructor
      · intro hab
        rw [← Option.some.inj hab] at ha
        exact absurd hb ha
      · intro hold
        exact absurd (hk a hold) ha
    · rw [get?_set_ne _ _ hl]

theorem has (h : t.Spares owner org u) (ht : t.Has owner other k) : u.Has owner other k := by
  obtain ⟨a, ha, rfl⟩ := ht
  exact h.stays k a ha

theorem leaves (h : t.Spares owner org u) (ht : t.Leaves owner org k) : u.Leaves owner org k := by
  intro a ha
  by_cases hown : owner a = org
  · exact hown
  · exact ht a ((h.others k a hown).mp ha)

end Spares

end Table

/-! ### Stores in order -/

def Counter.organization : Counter → String
  | .active org => org
  | .monthly org _ => org

namespace Store
variable {org : String} {s t u : Store}

/-- Records are kept under their ids, and what is indexed for an organization is its own. -/
structure Owned (s : Store) : Prop where
  configurations : s.configurations.Keyed Configuration.id
  jobs : s.jobs.Keyed Job.id
  configurationIds : ∀ org, ∀ id ∈ s.configurationIds org,
    s.configurations.Has Configuration.organization org id
  indexedJobs : ∀ org, ∀ e ∈ s.indexedJobs org, s.jobs.Has Job.organization org e.id

/-- What belongs to other organizations is the same in both stores. -/
structure Spares (org : String) (s t : Store) : Prop where
  configurations : s.configurations.Spares Configuration.organization org t.configurations
  jobs : s.jobs.Spares Job.organization org t.jobs
  configurationIds : ∀ other, other ≠ org → t.configurationIds other = s.configurationIds other
  indexedJobs : ∀ other, other ≠ org → t.indexedJobs other = s.indexedJobs other
  counters : ∀ c, c.organization ≠ org → t.counters.get? c = s.counters.get? c

theorem Spares.refl (s : Store) : s.Spares org s :=
  ⟨.refl _, .refl _, fun _ _ => rfl, fun _ _ => rfl, fun _ _ => rfl⟩

theorem Spares.trans (h : s.Spares org t) (g : t.Spares org u) : s.Spares org u :=
  ⟨h.configurations.trans g.configurations, h.jobs.trans g.jobs,
    fun o ho => (g.configurationIds o ho).trans (h.configurationIds o ho),
    fun o ho => (g.indexedJobs o ho).trans (h.indexedJobs o ho),
    fun c hc => (g.counters c hc).trans (h.counters c hc)⟩

/-- The second store is in order, and nobody else's things have changed. -/
structure Tended (org : String) (s t : Store) : Prop where
  owned : t.Owned
  spares : s.Spares org t

theorem tended_setConfiguration (h : s.Owned) {c : Configuration} (hc : c.organization = org)
    (hid : s.configurations.Leaves Configuration.organization org c.id) :
    s.Tended org { s with configurations := s.configurations.set c.id c } := by
  have hset := Table.Spares.set hid hc
  exact ⟨⟨h.configurations.set rfl, h.jobs, fun o id hi => hset.has (h.configurationIds o id hi),
    h.indexedJobs⟩, ⟨hset, .refl _, fun _ _ => rfl, fun _ _ => rfl, fun _ _ => rfl⟩⟩

theorem tended_setJob (h : s.Owned) {j : Job} {id : String} (hid : j.id = id)
    (hj : j.organization = org) (hleaves : s.jobs.Leaves Job.organization org id) :
    s.Tended org { s with jobs := s.jobs.set id j } := by
  have hset := Table.Spares.set hleaves hj
  exact ⟨⟨h.configurations, h.jobs.set hid, h.configurationIds,
    fun o e he => hset.has (h.indexedJobs o e he)⟩,
    ⟨.refl _, hset, fun _ _ => rfl, fun _ _ => rfl, fun _ _ => rfl⟩⟩

theorem configurationIds_set (s : Store) (org other : String) (ids : List String) :
    ({ s with configurationIndex := s.configurationIndex.set org ids } : Store).configurationIds other =
      if other = org then ids else s.configurationIds other := by
  by_cases ho : other = org
  · rw [if_pos ho, ho, configurationIds, Table.get?_set_self, Option.getD_some]
  · rw [if_neg ho, configurationIds, Table.get?_set_ne _ _ ho, configurationIds]

theorem indexedJobs_set (s : Store) (org other : String) (es : List IndexedJob) :
    ({ s with jobIndex := s.jobIndex.set org es } : Store).indexedJobs other =
      if other = org then es else s.indexedJobs other := by
  by_cases ho : other = org
  · rw [if_pos ho, ho, indexedJobs, Table.get?_set_self, Option.getD_some]
  · rw [if_neg ho, indexedJobs, Table.get?_set_ne _ _ ho, indexedJobs]

theorem tended_addConfigurationId (h : s.Owned) {id : String}
    (hid : s.configurations.Has Configuration.organization org id) :
    s.Tended org (s.addConfigurationId org id) := by
  unfold addConfigurationId
  dsimp only
  split
  · exact ⟨h, .refl s⟩
  · refine ⟨⟨h.configurations, h.jobs, fun other i hi => ?_, h.indexedJobs⟩,
      ⟨.refl _, .refl _, fun other ho => ?_, fun _ _ => rfl, fun _ _ => rfl⟩⟩
    · rw [configurationIds_set] at hi
      split at hi
      · rename_i ho
        rw [ho]
        obtain hi | hi := List.mem_append.mp hi
        · exact h.configurationIds org i hi
        · rw [List.mem_singleton.mp hi]
          exact hid
      · exact h.configurationIds other i hi
    · rw [configurationIds_set, if_neg ho]

theorem tended_indexJob (h : s.Owned) {entry : IndexedJob}
    (hid : s.jobs.Has Job.organization org entry.id) : s.Tended org (s.indexJob org entry) := by
  unfold indexJob
  dsimp only
  refine ⟨⟨h.configurations, h.jobs, h.configurationIds, fun other e he => ?_⟩,
    ⟨.refl _, .refl _, fun _ _ => rfl, fun other ho => ?_, fun _ _ => rfl⟩⟩
  · rw [indexedJobs_set] at he
    split at he
    · rename_i ho
      rw [ho]
      obtain he | he := List.mem_append.mp he
      · exact h.indexedJobs org e (List.mem_of_mem_filter he)
      · rw [List.mem_singleton.mp he]
        exact hid
    · exact h.indexedJobs other e he
  · rw [indexedJobs_set, if_neg ho]

/-- Records are not counts. -/
theorem tended_of_sameRecords (h : s.Owned) (hrecords : s.SameRecords t)
    (hcounters : ∀ c, c.organization ≠ org → t.counters.get? c = s.counters.get? c) :
    s.Tended org t := by
  obtain ⟨hconfigurations, hconfigurationIndex, hjobs, hjobIndex⟩ := hrecords
  have hids (other : String) : t.configurationIds other = s.configurationIds other := by
    rw [configurationIds, hconfigurationIndex, configurationIds]
  have hindexed (other : String) : t.indexedJobs other = s.indexedJobs other := by
    rw [indexedJobs, hjobIndex, indexedJobs]
  refine ⟨⟨hconfigurations ▸ h.configurations, hjobs ▸ h.jobs, fun o id hi => ?_, fun o e he => ?_⟩,
    ⟨hconfigurations ▸ .refl _, hjobs ▸ .refl _, fun o _ => hids o, fun o _ => hindexed o, hcounters⟩⟩
  · rw [hids] at hi
    exact hconfigurations ▸ h.configurationIds o id hi
  · rw [hindexed] at he
    exact hjobs ▸ h.indexedJobs o e he

end Store

/-! ### Worlds in order -/

namespace World
variable {org : String} {w w' w'' : World}

/-- The store is in order, nobody else writes to jobs, and what is queued are tasks for jobs that are
there. -/
structure Owned (w : World) : Prop where
  store : w.store.Owned
  races : w.races = []
  queued : ∀ p ∈ w.queue, ∃ t, p = Task.payload t ∧
    w.store.jobs.Has Job.organization t.organization t.job

/-- The world is in order, and nothing has changed but what belongs to the organization, the queue,
the files and the ids. -/
structure Tended (org : String) (w w' : World) : Prop where
  owned : w'.Owned
  spares : w.store.Spares org w'.store
  clock : w'.clock = w.clock
  settings : w'.settings = w.settings

theorem Tended.trans (h : w.Tended org w') (g : w'.Tended org w'') : w.Tended org w'' :=
  ⟨g.owned, h.spares.trans g.spares, g.clock.trans h.clock, g.settings.trans h.settings⟩

theorem tended_withStore (h : w.Owned) {s : Store} (hs : w.store.Tended org s) :
    w.Tended org (w.withStore s) := by
  refine ⟨⟨hs.owned, h.races, fun p hp => ?_⟩, hs.spares, rfl, rfl⟩
  obtain ⟨t, ht, hjob⟩ := h.queued p hp
  exact ⟨t, ht, hs.spares.jobs.has hjob⟩

/-- Faults come and go. -/
theorem tended_of_faults (h : w.Owned) (faults : List PlannedFault) (connected : Bool) :
    w.Tended org { w with faults, connected } :=
  ⟨⟨h.store, h.races, h.queued⟩, .refl _, rfl, rfl⟩

theorem Tended.attempt {ρ : Type} (h : w.Owned) (op : Operation) {act : World → World × Except Fault ρ}
    (hact : ∀ v : World, v.Owned → v.store = w.store → v.Tended org (act v).1) :
    w.Tended org (w.attempt op act).1 :=
  attempt_induction w op (fun faults connected => tended_of_faults h faults connected)
    fun faults connected => (tended_of_faults h faults connected).trans
      (hact _ ⟨h.store, h.races, h.queued⟩ rfl)

end World

/-- A command that an organization may give: what it writes belongs to the organization, and so does
what it writes over. -/
def Command.IsFor (org : String) (s : Store) : Command → Prop
  | .setConfiguration c =>
    c.organization = org ∧ s.configurations.Leaves Configuration.organization org c.id
  | .indexConfiguration other id =>
    other = org ∧ s.configurations.Has Configuration.organization org id
  | .createJob j => j.organization = org
  | .indexJob j => j.organization = org ∧ s.jobs.Has Job.organization org j.id
  | .updateJob id update =>
    s.jobs.Leaves Job.organization org id ∧
      ∀ j, update (s.jobs.get? id) = .ok j → j.id = id ∧ j.organization = org
  | .increment c => c.organization = org
  | .decrement c => c.organization = org
  | .resetCounter c => c.organization = org
  | .setLifetime c _ => c.organization = org
  | .enqueue t => s.jobs.Has Job.organization t.organization t.job
  | _ => True

namespace World
variable {org : String} {w : World}

theorem tended_refl (h : w.Owned) : w.Tended org w := tended_of_faults h w.faults w.connected

theorem tended_withCounter (h : w.Owned) {k : Counter} (hk : k.organization = org) {t : Store}
    (hrecords : w.store.SameRecords t)
    (hcounters : ∀ c, c ≠ k → t.counters.get? c = w.store.counters.get? c) :
    w.Tended org (w.withStore t) :=
  tended_withStore h (Store.tended_of_sameRecords h.store hrecords fun c hne =>
    hcounters c fun hck => hne (hck ▸ hk))

theorem tended_addTo (h : w.Owned) {k : Counter} (hk : k.organization = org) (n : Int) :
    w.Tended org (w.withStore (w.store.addTo k n)) :=
  tended_withCounter h hk (.addTo _ _ _) fun _ hc => Table.get?_set_ne _ _ hc

theorem tended_updateJob (h : w.Owned) {id : String} {update : Option Job → Except ServiceError Job}
    (hc : (Command.updateJob id update).IsFor org w.store) :
    w.Tended org (updateJob id update [] w).1 := by
  rw [updateJob]
  refine .attempt h _ fun v hv hstore => .attempt hv _ fun u hu hstore' => ?_
  have hstore := hstore'.trans hstore
  rw [← hstore] at hc
  obtain ⟨hleaves, hupdate⟩ := hc
  cases hj : update (u.store.jobs.get? id) with
  | error e => exact tended_refl hu
  | ok j =>
    refine .attempt hu _ fun x hx hxu => ?_
    rw [← hxu] at hleaves hj
    obtain ⟨hid, horg⟩ := hupdate j (hxu ▸ hj)
    exact tended_withStore hx (Store.tended_setJob hx.store hid horg hleaves)

/-- **A command of an organization spares what belongs to others.** -/
theorem tended_perform (h : w.Owned) {c : Command} (hc : c.IsFor org w.store) :
    w.Tended org (w.perform c).1 := by
  cases c with
  | setConfiguration c =>
    refine .attempt h _ fun v hv hstore => ?_
    rw [← hstore] at hc
    exact tended_withStore hv (Store.tended_setConfiguration hv.store hc.1 hc.2)
  | indexConfiguration other id =>
    refine .attempt h _ fun v hv hstore => ?_
    obtain ⟨rfl, hid⟩ := hc
    rw [← hstore] at hid
    exact tended_withStore hv (Store.tended_addConfigurationId hv.store hid)
  | createJob j =>
    refine .attempt h _ fun v hv hstore => ?_
    cases hj : v.store.jobs.get? j.id with
    | some k =>
      rw [if_pos (by rw [Option.isSome_some])]
      exact tended_refl hv
    | none =>
      rw [if_neg (by rw [Option.isSome_none]; exact Bool.false_ne_true)]
      exact tended_withStore hv (Store.tended_setJob hv.store rfl hc fun k hk => by
        rw [hj] at hk
        cases hk)
  | indexJob j =>
    refine .attempt h _ fun v hv hstore => ?_
    obtain ⟨rfl, hid⟩ := hc
    rw [← hstore] at hid
    exact tended_withStore hv (Store.tended_indexJob hv.store hid)
  | updateJob id update =>
    rw [perform, h.races]
    exact tended_updateJob h hc
  | increment c => exact .attempt h _ fun v hv _ => tended_addTo hv hc 1
  | decrement c => exact .attempt h _ fun v hv _ => tended_addTo hv hc (-1)
  | resetCounter c =>
    exact .attempt h _ fun v hv _ =>
      tended_withCounter hv hc ⟨rfl, rfl, rfl, rfl⟩ fun _ hne => Table.get?_set_ne _ _ hne
  | setLifetime c seconds =>
    refine .attempt h _ fun v hv _ => tended_withCounter hv hc (.setLifetime _ _ _) fun _ _ => ?_
    unfold Store.setLifetime
    split <;> rfl
  | enqueue t =>
    refine .attempt h _ fun v hv hstore => ⟨⟨hv.store, hv.races, fun p hp => ?_⟩, .refl _, rfl, rfl⟩
    obtain hp | hp := List.mem_append.mp hp
    · exact hv.queued p hp
    · rw [← hstore] at hc
      exact ⟨t, List.mem_singleton.mp hp, hc⟩
  | ping =>
    rw [perform]
    split
    · exact .attempt h _ fun v hv _ => tended_refl hv
    · exact tended_refl h
  | writeFile p bs => exact ⟨⟨h.store, h.races, h.queued⟩, .refl _, rfl, rfl⟩
  | readFile p => exact tended_refl h
  | _ => exact .attempt h _ fun v hv _ => tended_refl hv

end World

namespace Service
variable {α β : Type} {org : String} {w : World}

/-- A service that works for an organization spares what belongs to others, and what it returns is as
said. -/
structure Tends (org : String) (p : Service α) (w : World) (Q : α → World → Prop) : Prop where
  holds : w.Owned → w.Tended org (exec p w).1 ∧ ∀ a, (exec p w).2 = .ok a → Q a (exec p w).1

variable {Q : α → World → Prop} {R : β → World → Prop}

theorem tends_pure {a : α} (h : Q a w) : Tends org (pure a) w Q :=
  ⟨fun hw => ⟨World.tended_refl hw, fun _ hb => Except.ok.inj hb ▸ h⟩⟩

theorem tends_throw (e : ServiceError) : Tends org (throw e : Service α) w Q :=
  ⟨fun hw => ⟨World.tended_refl hw, fun _ hb => nomatch hb⟩⟩

theorem tends_result (r : Except ServiceError α) :
    Tends org (result r) w fun a w' => r = .ok a ∧ w' = w :=
  ⟨fun hw => ⟨World.tended_refl hw, fun _ hb => ⟨hb, rfl⟩⟩⟩

theorem tends_now : Tends org now w fun _ w' => w' = w :=
  ⟨fun hw => ⟨World.tended_refl hw, fun _ _ => rfl⟩⟩

theorem tends_freshId (kind : IdKind) : Tends org (freshId kind) w fun _ _ => True :=
  ⟨fun hw => ⟨⟨⟨hw.store, hw.races, hw.queued⟩, .refl _, rfl, rfl⟩, fun _ _ => trivial⟩⟩

theorem tends_command_reply (c : Command) (hc : c.IsFor org w.store) {Q : c.Reply → World → Prop}
    (hQ : ∀ r, (w.perform c).2 = .ok r → Q r (w.perform c).1) : Tends org (command c) w Q := by
  refine ⟨fun hw => ⟨World.tended_perform hw hc, fun a ha => hQ a ?_⟩⟩
  rw [exec_command] at ha
  cases h : (w.perform c).2 with
  | error e =>
    rw [h] at ha
    cases ha
  | ok r =>
    rw [h] at ha
    exact congrArg _ (Except.ok.inj ha)

theorem tends_command (c : Command) (hc : c.IsFor org w.store) :
    Tends org (command c) w fun _ _ => True := tends_command_reply c hc fun _ _ => trivial

theorem Tends.imp {p : Service α} {Q' : α → World → Prop} (h : Tends org p w Q)
    (hQ : ∀ a w', Q a w' → Q' a w') : Tends org p w Q' :=
  ⟨fun hw => ⟨(h.holds hw).1, fun a ha => hQ a _ ((h.holds hw).2 a ha)⟩⟩

theorem Tends.bind {p : Service α} (hp : Tends org p w Q) {f : α → Service β}
    (hf : ∀ a w', w.Tended org w' → Q a w' → Tends org (f a) w' R) : Tends org (p >>= f) w R := by
  refine ⟨fun hw => ?_⟩
  obtain ⟨htended, hreturns⟩ := hp.holds hw
  rw [exec_bind]
  cases h : exec p w with
  | mk w' r =>
    rw [h] at htended hreturns
    cases r with
    | error e => exact ⟨htended, fun _ hb => nomatch hb⟩
    | ok a =>
      obtain ⟨htended', hreturns'⟩ := (hf a w' htended (hreturns a rfl)).holds htended.owned
      exact ⟨htended.trans htended', hreturns'⟩

theorem Tends.attempt_bind {p : Service α} (hp : Tends org p w Q)
    {f : Except ServiceError α → Service β}
    (hok : ∀ a w', w.Tended org w' → Q a w' → Tends org (f (.ok a)) w' R)
    (herror : ∀ e w', w.Tended org w' → Tends org (f (.error e)) w' R) :
    Tends org (attempt p >>= f) w R := by
  refine ⟨fun hw => ?_⟩
  obtain ⟨htended, hreturns⟩ := hp.holds hw
  rw [exec_bind_of_ok (exec_attempt p w)]
  have hnext : Tends org (f (exec p w).2) (exec p w).1 R := by
    cases h : (exec p w).2 with
    | error e => exact herror e _ htended
    | ok a => exact hok a _ htended (hreturns a h)
  obtain ⟨htended', hreturns'⟩ := hnext.holds htended.owned
  exact ⟨htended.trans htended', hreturns'⟩

end Service

/-! ### What commands reply -/

namespace World
variable {w : World}

/-- An operation that succeeded has done what it is for. -/
theorem ok_of_attempt {ρ : Type} {op : Operation} {act : World → World × Except Fault ρ} {r : ρ}
    (h : (w.attempt op act).2 = .ok r) :
    ∃ v : World, v.store = w.store ∧ w.attempt op act = act v := by
  obtain ⟨faults, connected, -, hact | ⟨e, -, hfail⟩⟩ := attempt_cases w op act
  · exact ⟨{ w with faults, connected }, rfl, hact⟩
  · rw [hfail] at h
    cases h

theorem of_updateJob {id : String} {update : Option Job → Except ServiceError Job} {j : Job}
    (h : (updateJob id update [] w).2 = .ok (.ok j)) : update (w.store.jobs.get? id) = .ok j := by
  rw [updateJob] at h
  obtain ⟨v, hv, hact⟩ := ok_of_attempt h
  rw [hact] at h
  obtain ⟨u, hu, hact'⟩ := ok_of_attempt h
  rw [hact'] at h
  rw [← hv, ← hu]
  cases hj : update (u.store.jobs.get? id) with
  | error e =>
    simp only [hj] at h
    cases h
  | ok k =>
    simp only [hj] at h
    obtain ⟨x, -, hact''⟩ := ok_of_attempt h
    rw [hact''] at h
    exact Except.ok.inj h

end World

/-! ### The services -/

section Services
variable {org : String} {w : World}

namespace Quota

theorem tends_giveBack {c : Counter} (hc : c.organization = org) :
    Tends org (giveBack c) w fun _ _ => True := by
  unfold giveBack
  refine .bind (tends_command (.decrement c) hc) fun left w' _ _ => ?_
  split
  · exact .bind (tends_command (.resetCounter c) hc) fun _ _ _ _ => tends_pure trivial
  · exact tends_pure trivial

theorem tends_release (org : String) : Tends org (release org) w fun _ _ => True := by
  have hback : Tends org (giveBack (.active org)) w fun _ _ => True := tends_giveBack rfl
  unfold release
  exact hback.bind fun _ _ _ _ => tends_pure trivial

theorem tends_refund (org : String) : Tends org (refund org) w fun _ _ => True := by
  unfold refund
  exact .bind tends_now fun _ _ _ _ => tends_giveBack rfl

theorem tends_takeSlot (s : Settings) {month : Counter} (hmonth : month.organization = org)
    (used : Int) : Tends org (takeSlot s org month used) w fun _ _ => True := by
  unfold takeSlot
  split
  · exact .bind (tends_command (.decrement month) hmonth) fun _ _ _ _ => tends_pure trivial
  · refine .bind (tends_command (.increment (.active org)) rfl) fun active _ _ _ => ?_
    split
    · exact .bind (tends_command (.decrement (.active org)) rfl) fun _ _ _ _ =>
        .bind (tends_command (.decrement month) hmonth) fun _ _ _ _ => tends_pure trivial
    · exact tends_pure trivial

theorem tends_reserve (s : Settings) (org : String) (size : Int) :
    Tends org (reserve s org size) w fun _ _ => True := by
  cases hsize : sizeRefusal? s size with
  | some reason =>
    rw [reserve, hsize]
    exact tends_pure trivial
  | none =>
    rw [reserve_of_size s org hsize]
    refine .bind tends_now fun now _ _ _ => ?_
    refine .bind (tends_command (.increment (monthly org now)) rfl) fun used _ _ _ => ?_
    split
    · exact .bind (tends_command (.setLifetime (monthly org now) _) rfl) fun _ _ _ _ =>
        tends_takeSlot s rfl _
    · exact tends_takeSlot s rfl _

end Quota

namespace Configurations

theorem tends_getConfiguration (id : String) :
    Tends org (command (.getConfiguration id)) w fun found w' =>
      w'.store = w.store ∧ found = w.store.configurations.get? id := by
  refine tends_command_reply (.getConfiguration id) trivial fun r hr => ?_
  rw [World.perform] at hr ⊢
  obtain ⟨v, hv, hact⟩ := World.ok_of_attempt hr
  rw [hact] at hr ⊢
  exact ⟨hv, hv ▸ (Except.ok.inj hr).symm⟩

/-- What an organization finds is stored and its own. -/
theorem tends_find? (other id : String) (inactive : Bool) :
    Tends org (find? other id inactive) w fun found w' =>
      w'.store = w.store ∧ ∀ c, found = some c →
        w.store.configurations.get? id = some c ∧ c.organization = other := by
  unfold find?
  refine .bind (tends_getConfiguration id) fun found w' _ ⟨hstore, hfound⟩ =>
    tends_pure ⟨hstore, fun c hc => ?_⟩
  obtain ⟨hc, hvisible⟩ := Option.filter_eq_some_iff.mp hc
  rw [isVisible, Bool.and_eq_true, beq_iff_eq] at hvisible
  exact ⟨hfound ▸ hc, hvisible.1⟩

theorem tends_setConfiguration {c : Configuration}
    (hc : (Command.setConfiguration c).IsFor org w.store) :
    Tends org (command (.setConfiguration c)) w fun _ w' =>
      w'.store.configurations.get? c.id = some c := by
  refine tends_command_reply (.setConfiguration c) hc fun r hr => ?_
  rw [World.perform] at hr ⊢
  obtain ⟨v, hv, hact⟩ := World.ok_of_attempt hr
  rw [hact]
  exact Table.get?_set_self _ _ _

/-- A configuration keeps its id and its organization when it is stored, and what it replaces has the
same. -/
theorem of_stored {c c' : Configuration} {existing : Option Configuration} {now : DateTime}
    (h : stored c existing now = .ok c') :
    c'.id = c.id ∧ c'.organization = c.organization ∧
      ∀ old, existing = some old → old.organization = c.organization := by
  cases existing with
  | none =>
    obtain rfl := Except.ok.inj h
    exact ⟨rfl, rfl, fun _ hold => nomatch hold⟩
  | some old =>
    rw [stored] at h
    split at h
    · rename_i horg
      obtain rfl := Except.ok.inj h
      exact ⟨rfl, rfl, fun _ hold => Option.some.inj hold ▸ horg⟩
    · cases h

theorem tends_save (c : Configuration) :
    Tends c.organization (save c) w fun _ _ => True := by
  unfold save
  refine .bind tends_now fun now w1 _ _ => ?_
  refine .bind (tends_getConfiguration c.id) fun existing w2 _ ⟨hstore, hexisting⟩ => ?_
  refine .bind (tends_result _) fun c' w3 _ ⟨hstored, hw3⟩ => ?_
  obtain ⟨hid, horg, hold⟩ := of_stored hstored
  have hleaves : w3.store.configurations.Leaves Configuration.organization c.organization c'.id := by
    intro a ha
    rw [hw3, hstore, hid, ← hexisting] at ha
    exact hold a ha
  refine .bind (tends_setConfiguration ⟨horg, hleaves⟩) fun _ w4 _ hset => ?_
  refine .bind (tends_command (.indexConfiguration c'.organization c'.id) ⟨horg, c', hset, horg⟩)
    fun _ _ _ _ => tends_pure trivial

theorem tends_deactivate (hw : w.Owned) (org id : String) :
    Tends org (deactivate org id) w fun _ _ => True := by
  unfold deactivate
  refine .bind (tends_find? org id false) fun found w1 _ ⟨hstore, hfound⟩ => ?_
  cases found with
  | none => exact tends_pure trivial
  | some c =>
    obtain ⟨hc, horg⟩ := hfound c rfl
    refine .bind tends_now fun now w2 _ hw2 => ?_
    have hleaves : w2.store.configurations.Leaves Configuration.organization org c.id := by
      intro a ha
      rw [hw2, hstore, hw.store.configurations id c hc, hc] at ha
      rw [← Option.some.inj ha, horg]
    exact .bind (tends_command (.setConfiguration { c with active := false, updatedAt := some now })
      ⟨horg, hleaves⟩) fun _ _ _ _ => tends_pure trivial

end Configurations

namespace Jobs

theorem tends_find? (id : String) (other : Option String) :
    Tends org (find? id other) w fun _ _ => True := by
  unfold find?
  exact .bind (tends_command (.getJob id) trivial) fun _ _ _ _ => tends_pure trivial

/-- A job that was created is there. -/
theorem tends_create {j : Job} (hj : j.organization = org) :
    Tends org (create j) w fun k w' => k = j ∧ w'.store.jobs.Has Job.organization org j.id := by
  have hcreate : Tends org (command (.createJob j)) w fun created w' =>
      created = true → w'.store.jobs.Has Job.organization org j.id := by
    refine tends_command_reply (.createJob j) hj fun created hr => ?_
    rw [World.perform] at hr ⊢
    obtain ⟨v, -, hact⟩ := World.ok_of_attempt hr
    rw [hact] at hr ⊢
    intro hcreated
    split at hr
    · have hnot : false = created := Except.ok.inj hr
      rw [hcreated] at hnot
      cases hnot
    · rename_i hnew
      rw [if_neg hnew]
      exact ⟨j, Table.get?_set_self _ _ _, hj⟩
  unfold create
  split
  · refine hcreate.bind fun created w1 _ hhas => ?_
    cases hcreated : created with
    | false => exact tends_throw _
    | true =>
      have hhas := hhas hcreated
      exact .bind (tends_command (.indexJob j) ⟨hj, hhas⟩) fun _ w2 htended _ =>
        tends_pure ⟨rfl, htended.spares.jobs.has hhas⟩
  · exact tends_throw _

/-- A move leaves the name of a job and its organization as they are. -/
def KeepsNames (target : JobStatus) (fields : List JobField) : Prop :=
  ∀ (j : Job) now, (j.moved target now fields).id = j.id ∧
    (j.moved target now fields).organization = j.organization

theorem tends_move (hw : w.Owned) {id : String} (hid : w.store.jobs.Leaves Job.organization org id)
    {target : JobStatus} {fields : List JobField} (hfields : KeepsNames target fields) :
    Tends org (move id target fields) w fun k _ => k.id = id ∧ k.organization = org := by
  unfold move
  refine .bind tends_now fun now w1 _ hw1 => ?_
  rw [hw1]
  have hnext (j : Job) (hj : next id target now fields (w.store.jobs.get? id) = .ok j) :
      j.id = id ∧ j.organization = org := by
    cases hold : w.store.jobs.get? id with
    | none =>
      rw [hold] at hj
      cases hj
    | some k =>
      rw [hold, next] at hj
      split at hj
      · obtain rfl := Except.ok.inj hj
        obtain ⟨hname, howner⟩ := hfields k now
        exact ⟨hname.trans (hw.store.jobs id k hold), howner.trans (hid k hold)⟩
      · cases hj
  have hupdate : Tends org (command (.updateJob id (next id target now fields))) w fun r _ =>
      ∀ k, r = .ok k → k.id = id ∧ k.organization = org := by
    refine tends_command_reply (.updateJob id (next id target now fields)) ⟨hid, hnext⟩
      fun r hr k hk => hnext k ?_
    rw [World.perform, hw.races] at hr
    exact World.of_updateJob (hk ▸ hr)
  exact hupdate.bind fun r w2 _ hr => (tends_result r).imp fun k _ hk => hr k hk.1

end Jobs

namespace Outputs

theorem tends_save [Host] (other job name : String) (bs : Bytes) :
    Tends org (save other job name bs) w fun _ _ => True := by
  unfold save
  refine .bind (tends_result _) fun p _ _ _ => .bind (tends_command (.writeFile p bs) trivial)
    fun written _ _ _ => ?_
  cases written with
  | ok _ => exact tends_pure trivial
  | error e => exact tends_throw _

end Outputs

namespace Submission

/-- A job that ends keeps its names. -/
theorem Finish.keepsNames {target : JobStatus} {fields : List JobField} (h : Finish target fields) :
    Jobs.KeepsNames target fields := fun j now =>
  ⟨(h.moved_keeps j now).1, (h.moved_keeps j now).2.1⟩

theorem tends_giveBack (org : String) (completed : Bool) :
    Tends org (giveBack org completed) w fun _ _ => True := by
  unfold giveBack
  have hback : Tends org (do
      Quota.release org
      if !completed then
        let _ ← Quota.refund org : Service Unit) w fun _ _ => True := by
    refine .bind (Quota.tends_release org) fun _ _ _ _ => ?_
    split
    · exact .bind (Quota.tends_refund org) fun _ _ _ _ => tends_pure trivial
    · exact tends_pure trivial
  exact hback.attempt_bind (fun _ _ _ _ => tends_pure trivial) fun _ _ _ => tends_pure trivial

theorem tends_markFailed (hw : w.Owned) {j : Job}
    (hj : w.store.jobs.Leaves Job.organization org j.id) (message : String) (log : Option Value) :
    Tends org (markFailed j message log) w fun _ _ => True := by
  unfold markFailed
  refine (Jobs.tends_move hw hj (Finish.failed message log).keepsNames).attempt_bind
    (fun _ _ _ _ => tends_pure trivial) fun e w1 _ => ?_
  dsimp only
  split
  · exact .bind (Jobs.tends_find? _ _) fun _ _ _ _ => tends_pure trivial
  · exact .bind tends_now fun _ _ _ _ => tends_pure trivial

theorem tends_deliver [Host] {j : Job} (hj : w.store.jobs.Leaves Job.organization org j.id)
    (c : Configuration) (fileName : String) (r : RunResult) :
    Tends org (deliver j c fileName r) w fun _ _ => True := by
  unfold deliver
  refine .bind (Outputs.tends_save _ _ _ _) fun ref w1 htended _ => ?_
  exact .bind (Jobs.tends_move htended.owned (htended.spares.jobs.leaves hj)
    (Finish.completed ref _).keepsNames) fun _ _ _ _ => tends_pure trivial

theorem tends_finish [Host] (hw : w.Owned) {j : Job}
    (hj : w.store.jobs.Leaves Job.organization org j.id) (c : Configuration) (fileName : String) (r : RunResult) :
    Tends org (finish j c fileName r) w fun _ _ => True := by
  unfold finish
  split
  · exact .bind (tends_markFailed hw hj _ _) fun _ _ _ _ => tends_pure trivial
  · exact .bind (tends_deliver hj c fileName r) fun _ _ _ _ => tends_pure trivial

theorem tends_carryOut [Host] (hw : w.Owned) {j : Job}
    (hj : w.store.jobs.Leaves Job.organization org j.id) (c : Configuration) (file : File) (fileName : String) :
    Tends org (carryOut j c file fileName) w fun _ _ => True := by
  unfold carryOut
  split
  · exact .bind (tends_markFailed hw hj _ _) fun _ _ _ _ => tends_pure trivial
  · refine (tends_finish hw hj c fileName _).attempt_bind (fun _ _ _ _ => tends_pure trivial)
      fun e w1 htended => ?_
    exact .bind (tends_markFailed htended.owned (htended.spares.jobs.leaves hj) _ _)
      fun _ _ _ _ => tends_pure trivial

/-- Carrying out a job of an organization is work for that organization. -/
theorem tends_execute [Host] (hw : w.Owned) {j : Job}
    (hj : w.store.jobs.Leaves Job.organization org j.id) (horg : j.organization = org)
    (c : Configuration) (file : File) (fileName : String) :
    Tends org (execute j c file fileName) w fun _ _ => True := by
  obtain rfl := horg
  unfold execute
  refine (tends_carryOut hw hj c file fileName).attempt_bind (fun done w1 _ _ => ?_)
    fun e w1 _ => ?_
  · exact .bind (tends_giveBack _ _) fun _ _ _ _ => tends_pure trivial
  · exact .bind (tends_giveBack _ _) fun _ _ _ _ => tends_throw _

theorem tends_publish (s : Submission) {j : Job}
    (hj : w.store.jobs.Has Job.organization s.organization j.id) :
    Tends s.organization (publish s j) w fun _ _ => True := by
  unfold publish
  refine (tends_command (.enqueue (s.task j)) hj).attempt_bind (fun _ _ _ _ => tends_pure trivial)
    fun e w1 htended => ?_
  refine .bind (tends_markFailed htended.owned (htended.spares.jobs.has hj).leaves _ _)
    fun failed _ _ _ => ?_
  exact .bind (tends_giveBack _ _) fun _ _ _ _ => tends_pure trivial

/-- Looking for a configuration changes nothing. -/
theorem tends_configurationFor (other id : String) :
    Tends org (configurationFor other id) w fun _ _ => True := by
  unfold configurationFor
  refine .bind (Configurations.tends_find? other id false) fun found _ _ _ => ?_
  cases found with
  | none => exact tends_throw _
  | some c => exact tends_pure trivial

theorem tends_createJob (s : Submission) {j : Job} (hj : j.organization = s.organization) :
    Tends s.organization (createJob s j) w fun k w' =>
      k = j ∧ w'.store.jobs.Has Job.organization s.organization j.id := by
  unfold createJob
  refine (Jobs.tends_create hj).attempt_bind (fun k w1 _ hk => tends_pure hk) fun e w1 _ => ?_
  exact .bind (tends_giveBack _ _) fun _ _ _ _ => tends_throw _

theorem tends_start [Host] (s : Submission) (c : Configuration) (mode : Mode) :
    Tends s.organization (start s c mode) w fun _ _ => True := by
  unfold start proceed
  refine .bind tends_now fun now _ _ _ => .bind (tends_freshId _) fun id _ _ _ => ?_
  refine .bind (tends_createJob s rfl) fun j w1 htended ⟨hj, hhas⟩ => ?_
  rw [← hj] at hhas
  cases mode with
  | queued => exact .bind (tends_publish s hhas) fun _ _ _ _ => tends_pure trivial
  | sync =>
    exact .bind (tends_execute htended.owned hhas.leaves (by rw [hj]; rfl) c s.file s.fileName)
      fun _ _ _ _ => tends_pure trivial

theorem tends_submit [Host] (settings : Settings) (s : Submission) :
    Tends s.organization (submit settings s) w fun _ _ => True := by
  rw [submit_eq]
  refine .bind (tends_configurationFor _ _) fun c _ _ _ => ?_
  split
  · refine .bind (Quota.tends_reserve _ _ _) fun decision _ _ _ => ?_
    cases decision with
    | denied reason counts => exact tends_throw _
    | allowed counts => exact tends_start s c _
  · exact tends_throw _

end Submission

namespace Task

/-- A job that a worker takes keeps its names. -/
theorem keepsNames_taken : Jobs.KeepsNames .processing [] := fun j now => by
  rw [j.moved_processing now]
  exact ⟨rfl, rfl⟩

theorem tends_prepare (t : Task) : Tends org t.prepare w fun _ _ => True := by
  unfold prepare
  exact .bind (Submission.tends_configurationFor _ _) fun _ _ _ _ =>
    .bind (tends_result _) fun _ _ _ _ => tends_pure trivial

/-- Carrying out a task is work for the organization that the task names, if its job is theirs. -/
theorem tends_process [Host] (hw : w.Owned) {t : Task}
    (ht : w.store.jobs.Leaves Job.organization t.organization t.job) :
    Tends t.organization t.process w fun _ _ => True := by
  unfold process
  refine (Jobs.tends_move hw ht keepsNames_taken).attempt_bind (fun j w1 htended hj => ?_)
    fun e w1 _ => ?_
  · obtain ⟨hid, horg⟩ := hj
    have hleaves {w2 : World} (h : w.Tended t.organization w2) :
        w2.store.jobs.Leaves Job.organization t.organization j.id :=
      hid ▸ h.spares.jobs.leaves ht
    refine (tends_prepare t).attempt_bind (fun p w2 htended' _ => ?_) fun e w2 htended' => ?_
    · exact .bind (Submission.tends_execute htended'.owned (hleaves (htended.trans htended')) horg
        _ _ _) fun _ _ _ _ => tends_pure trivial
    · exact .bind (Submission.tends_markFailed htended'.owned (hleaves (htended.trans htended')) _ _)
        fun _ _ _ _ => .bind (Submission.tends_giveBack _ _) fun _ _ _ _ => tends_pure trivial
  · dsimp only
    split
    · exact tends_pure trivial
    · exact tends_throw _

end Task

end Services

end Sheetflow
