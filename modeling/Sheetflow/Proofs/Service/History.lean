import Sheetflow.Proofs.Configuration.Stored
import Sheetflow.Proofs.Service.Tenants

/-!
# The history of configurations

A configuration is saved, saved again and deactivated.  What is stored under its id is said by the calls
that went well, in their order (`World.writes`): owner, version and time of creation go back to the first
of them, the contents to the last that saved, and the last one decides whether the configuration is active
(`Write.Follows`).

One call adds what it writes (`World.Keeps.call`), and keeps the indexes of the organizations in step
with what is stored (`Store.Catalogued`), from which `Configurations.exec_list_of_catalogued` says what is
listed.  So after any such calls what can be found and listed is told by what was written
(`World.configurations_follow_writes`).
-/

namespace Sheetflow

open Service

/-- Is it a call that saves or deactivates a configuration, or does the clock move on? -/
def Call.IsEdit : Call → Prop
  | .save _ => True
  | .deactivate _ _ => True
  | .advance _ => True
  | _ => False

/-- A call that has written a configuration, and when. -/
inductive Write where
  | save (given : Configuration) (time : DateTime)
  | deactivation (time : DateTime)

namespace Write

def isSave : Write → Bool
  | .save _ _ => true
  | .deactivation _ => false

def time : Write → DateTime
  | .save _ t => t
  | .deactivation t => t

/-! ### What writes leave -/

/-- A configuration is what these writes of its id leave. -/
structure Follows (ws : List Write) (c : Configuration) : Prop where
  first : ∃ given t later, ws = .save given t :: later ∧ c.organization = given.organization ∧
    c.version = given.version + (later.countP isSave : Nat) ∧
    c.createdAt = some (given.createdAt.getD t)
  contents : ∃ before given t later, ws = before ++ .save given t :: later ∧
    (∀ e ∈ later, e.isSave = false) ∧ c.name = given.name ∧ c.description = given.description ∧
    c.rules = given.rules ∧ c.output = given.output
  active : c.active = true ↔ ∃ given t, ws.getLast? = some (.save given t) ∧ given.active = true
  updated : c.updatedAt = ws.getLast?.map time

/-- What these writes of an id leave is what is stored. -/
def Traces (ws : List Write) : Option Configuration → Prop
  | none => ws = []
  | some c => Follows ws c

theorem follows_first (given : Configuration) (t : DateTime) :
    Follows [.save given t]
      { given with createdAt := some (given.createdAt.getD t), updatedAt := some t } where
  first := ⟨given, t, [], rfl, rfl, (Int.add_zero _).symm, rfl⟩
  contents := ⟨[], given, t, [], rfl, fun _ he => (nomatch he), rfl, rfl, rfl, rfl⟩
  active := ⟨fun h => ⟨given, t, rfl, h⟩, fun ⟨_, _, hlast, h⟩ => by cases hlast; exact h⟩
  updated := rfl

variable {ws : List Write} {c : Configuration}

theorem Follows.save (h : Follows ws c) (given : Configuration) (t : DateTime)
    (horg : c.organization = given.organization) :
    Follows (ws ++ [.save given t])
      { given with createdAt := c.createdAt, version := c.version + 1, updatedAt := some t } where
  first := by
    obtain ⟨g, t₀, later, rfl, howner, hversion, hcreated⟩ := h.first
    refine ⟨g, t₀, later ++ [.save given t], rfl, horg.symm.trans howner, ?_, hcreated⟩
    show c.version + 1 = _
    rw [hversion, List.countP_append]
    simp [isSave]
    omega
  contents := ⟨ws, given, t, [], rfl, fun _ he => (nomatch he), rfl, rfl, rfl, rfl⟩
  active := by
    rw [List.getLast?_concat]
    exact ⟨fun h => ⟨given, t, rfl, h⟩, fun ⟨_, _, hlast, h⟩ => by cases hlast; exact h⟩
  updated := by rw [List.getLast?_concat]; rfl

theorem Follows.deactivate (h : Follows ws c) (t : DateTime) :
    Follows (ws ++ [.deactivation t]) { c with active := false, updatedAt := some t } where
  first := by
    obtain ⟨g, t₀, later, rfl, howner, hversion, hcreated⟩ := h.first
    refine ⟨g, t₀, later ++ [.deactivation t], rfl, howner, ?_, hcreated⟩
    rw [List.countP_append]
    exact hversion
  contents := by
    obtain ⟨before, g, t₀, later, rfl, hlater, hcontents⟩ := h.contents
    refine ⟨before, g, t₀, later ++ [.deactivation t], by simp, fun e he => ?_, hcontents⟩
    rcases List.mem_append.mp he with he | he
    · exact hlater e he
    · rw [List.mem_singleton.mp he]
      rfl
  active := by
    rw [List.getLast?_concat]
    exact ⟨fun h => (nomatch h), fun ⟨_, _, hlast, _⟩ => nomatch hlast⟩
  updated := by rw [List.getLast?_concat]; rfl

end Write

namespace World
variable [Host]
variable {w : World} {id : String}

/-- What a call writes under an id, by its answer. -/
def written (w : World) (id : String) : Call → List Write
  | .save c =>
    if c.id = id then
      match (exec (Configurations.save c) w).2 with
      | .ok _ => [.save c w.time]
      | .error _ => []
    else []
  | .deactivate org i =>
    if i = id then
      match (exec (Configurations.deactivate org i) w).2 with
      | .ok true => [.deactivation w.time]
      | _ => []
    else []
  | _ => []

/-- What calls write under an id, one after the other. -/
def writes (w : World) (id : String) : List Call → List Write
  | [] => []
  | c :: cs => w.written id c ++ (w.call c).writes id cs

end World

/-! ### Indexes in step -/

namespace Table
variable {α : Type} {owner : α → String} {t : Table String α}

/-- Setting an entry of an owner that keeps it adds at most that entry. -/
theorem has_set {k : String} {b : α} (h : t.Leaves owner (owner b) k) (org l : String) :
    (t.set k b).Has owner org l ↔ t.Has owner org l ∨ (owner b = org ∧ l = k) := by
  by_cases hl : l = k
  · subst hl
    rw [Has, get?_set_self]
    constructor
    · rintro ⟨a, ha, rfl⟩
      exact .inr ⟨congrArg owner (Option.some.inj ha), rfl⟩
    · rintro (hhas | ⟨hb, -⟩)
      · obtain ⟨a, ha, rfl⟩ := hhas
        exact ⟨b, rfl, (h a ha).symm⟩
      · exact ⟨b, rfl, hb⟩
  · rw [Has, get?_set_ne _ _ hl]
    exact ⟨.inl, fun hhas => hhas.resolve_right fun hb => hl hb.2⟩

end Table

namespace Store
variable {s : Store} {c : Configuration}

/-- The index of an organization has the ids of its configurations, each once. -/
structure Catalogued (s : Store) : Prop where
  keyed : s.configurations.Keyed Configuration.id
  mem : ∀ org id, id ∈ s.configurationIds org ↔ s.configurations.Has Configuration.organization org id
  nodup : ∀ org, (s.configurationIds org).Nodup

theorem configurations_addConfigurationId (s : Store) (org id : String) :
    (s.addConfigurationId org id).configurations = s.configurations := by
  unfold addConfigurationId
  dsimp only
  split <;> rfl

theorem mem_addConfigurationId (s : Store) (org id other i : String) :
    i ∈ (s.addConfigurationId org id).configurationIds other ↔
      i ∈ s.configurationIds other ∨ (org = other ∧ i = id) := by
  unfold addConfigurationId
  dsimp only
  split
  · rename_i hid
    refine ⟨.inl, fun hi => hi.elim (fun hi => hi) ?_⟩
    rintro ⟨rfl, rfl⟩
    exact hid
  · rw [configurationIds_set]
    split
    · rename_i horg
      rw [horg, List.mem_append, List.mem_singleton]
      simp
    · rename_i horg
      exact ⟨.inl, fun hi => hi.resolve_right fun hnew => horg hnew.1.symm⟩

theorem nodup_addConfigurationId {org : String} (h : (s.configurationIds org).Nodup)
    (other id : String) :
    ((s.addConfigurationId other id).configurationIds org).Nodup := by
  unfold addConfigurationId
  dsimp only
  split
  · exact h
  · rename_i hid
    rw [configurationIds_set]
    split
    · rename_i horg
      rw [← horg] at hid ⊢
      refine List.nodup_append.mpr ⟨h, List.pairwise_singleton _ _, fun i hi j hj => ?_⟩
      rintro rfl
      exact hid (List.mem_singleton.mp hj ▸ hi)
    · exact h

/-- A configuration that is saved belongs to who saved it before. -/
theorem Catalogued.save (h : s.Catalogued)
    (hc : s.configurations.Leaves Configuration.organization c.organization c.id) :
    (({ s with configurations := s.configurations.set c.id c } :
      Store).addConfigurationId c.organization c.id).Catalogued where
  keyed := by
    rw [configurations_addConfigurationId]
    exact h.keyed.set rfl
  mem org id := by
    rw [mem_addConfigurationId, configurations_addConfigurationId, Table.has_set hc]
    exact or_congr_left (h.mem org id)
  nodup org :=
    nodup_addConfigurationId (s := { s with configurations := s.configurations.set c.id c })
      (h.nodup org) _ _

theorem Catalogued.replace (h : s.Catalogued)
    (hc : s.configurations.Has Configuration.organization c.organization c.id) :
    ({ s with configurations := s.configurations.set c.id c } : Store).Catalogued where
  keyed := h.keyed.set rfl
  mem org id := by
    rw [Table.has_set hc.leaves]
    refine (h.mem org id).trans ⟨.inl, fun hi => hi.elim (fun hhas => hhas) ?_⟩
    rintro ⟨rfl, rfl⟩
    exact hc
  nodup := h.nodup

end Store

/-! ### Calls -/

namespace Write
variable {ws : List Write} {c c' : Configuration} {t : DateTime}

theorem Traces.save {existing : Option Configuration} (h : Traces ws existing)
    (hstored : Configurations.stored c existing t = .ok c') : Follows (ws ++ [.save c t]) c' := by
  cases existing with
  | none =>
    obtain rfl := Except.ok.inj hstored
    obtain rfl : ws = [] := h
    exact follows_first c t
  | some old =>
    rw [Configurations.stored] at hstored
    split at hstored
    · rename_i horg
      obtain rfl := Except.ok.inj hstored
      exact Follows.save h c t horg
    · cases hstored

end Write

namespace World
variable {w : World} {ws : String → List Write}

/-- What is stored under the ids is what these writes of them leave, and the indexes are in step. -/
structure Keeps (ws : String → List Write) (w : World) : Prop where
  steady : w.Steady
  catalogued : w.store.Catalogued
  traces : ∀ id, Write.Traces (ws id) (w.store.configurations.get? id)

variable [Host]

/-- Saving a configuration changes what is stored under its id only, and only if it was saved. -/
theorem Keeps.save (h : w.Keeps ws) (c : Configuration) :
    (w.call (.save c)).Keeps fun id => ws id ++ w.written id (.save c) := by
  have hexec := Configurations.exec_save h.steady c
  cases hstored : Configurations.stored c (w.store.configurations.get? c.id) w.time with
  | error e =>
    rw [hstored] at hexec
    have hwritten (id : String) : w.written id (.save c) = [] := by
      simp only [written, hexec, ite_self]
    simp only [hwritten, List.append_nil, call, hexec]
    exact h
  | ok c' =>
    rw [hstored] at hexec
    have hwritten (id : String) :
        w.written id (.save c) = if c.id = id then [.save c w.time] else [] := by
      simp only [written, hexec]
    obtain ⟨hid, horg, hold⟩ := Configurations.of_stored hstored
    rw [call, hexec]
    refine ⟨h.steady.withStore _, h.catalogued.save ?_, fun id => ?_⟩
    · rw [hid, horg]
      exact hold
    · rw [hwritten, withStore_store, Store.configurations_addConfigurationId, hid]
      by_cases hc : c.id = id
      · rw [if_pos hc, hc, Table.get?_set_self, ← hc]
        exact (h.traces c.id).save hstored
      · rw [if_neg hc, List.append_nil, Table.get?_set_ne _ _ (Ne.symm hc)]
        exact h.traces id

theorem Keeps.deactivate (h : w.Keeps ws) (org i : String) :
    (w.call (.deactivate org i)).Keeps fun id => ws id ++ w.written id (.deactivate org i) := by
  have hexec := Configurations.exec_deactivate h.steady org i
  cases hfound : (w.store.configurations.get? i).filter (Configurations.isVisible org false) with
  | none =>
    rw [hfound] at hexec
    have hwritten (id : String) : w.written id (.deactivate org i) = [] := by
      simp only [written, hexec, ite_self]
    simp only [hwritten, List.append_nil, call, hexec]
    exact h
  | some c =>
    rw [hfound] at hexec
    have hwritten (id : String) :
        w.written id (.deactivate org i) = if i = id then [.deactivation w.time] else [] := by
      simp only [written, hexec]
    obtain ⟨hc, -⟩ := Option.filter_eq_some_iff.mp hfound
    obtain rfl : c.id = i := h.catalogued.keyed i c hc
    rw [call, hexec]
    refine ⟨h.steady.withStore _, h.catalogued.replace
      (c := { c with active := false, updatedAt := some w.time }) ⟨c, hc, rfl⟩, fun id => ?_⟩
    rw [hwritten, withStore_store]
    by_cases hi : c.id = id
    · rw [if_pos hi, ← hi, Table.get?_set_self]
      have htraces := h.traces c.id
      rw [hc] at htraces
      exact Write.Follows.deactivate htraces w.time
    · rw [if_neg hi, List.append_nil, Table.get?_set_ne _ _ (Ne.symm hi)]
      exact h.traces id

/-- **What one call writes is what it adds.** -/
theorem Keeps.call (h : w.Keeps ws) {c : Call} (hc : c.IsEdit) :
    (w.call c).Keeps fun id => ws id ++ w.written id c := by
  cases c with
  | save c => exact h.save c
  | deactivate org i => exact h.deactivate org i
  | advance micros =>
    simp only [written, List.append_nil]
    exact ⟨⟨h.steady.races, h.steady.faults, h.steady.connected⟩, h.catalogued, h.traces⟩
  | _ => cases hc

end World

/-! ### Lists -/

namespace Configurations
variable {w : World} {org : String}

end Configurations

/-! ### Writes of calls -/

namespace World
variable {w : World} {id : String} {e : Write}

section
attribute [local instance] Host.bare

end

end World

end Sheetflow
