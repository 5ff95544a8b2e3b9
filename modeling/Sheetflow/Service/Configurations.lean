import Sheetflow.Service.Program

/-!
# Keeping configurations

Configurations are kept by id and belong to the organization that saved them first. Saving again under
the same id counts the version up; deactivating keeps the configuration but hides it.
-/

namespace Sheetflow.Configurations

open Service

/-- The configuration as it is stored at a time, where another of its id may be stored already. -/
def stored (c : Configuration) (existing : Option Configuration) (now : DateTime) :
    Except ServiceError Configuration :=
  match existing with
  | none => .ok { c with createdAt := some (c.createdAt.getD now), updatedAt := some now }
  | some old =>
    if old.organization = c.organization then
      .ok { c with createdAt := old.createdAt, version := old.version + 1, updatedAt := some now }
    else .error (.foreignConfiguration c.id)

/-- Save a configuration, which replaces one of its id. -/
def save (c : Configuration) : Service Configuration := do
  let now ← now
  let existing ← command (.getConfiguration c.id)
  let c ← result (stored c existing now)
  let _ ← command (.setConfiguration c)
  let _ ← command (.indexConfiguration c.organization c.id)
  return c

/-- May the organization see the configuration? Inactive ones are only seen on request. -/
def isVisible (org : String) (inactive : Bool) (c : Configuration) : Bool :=
  c.organization == org && (c.active || inactive)

/-- The configuration of an id, as far as the organization may see it. -/
def find? (org id : String) (inactive : Bool) : Service (Option Configuration) := do
  let found : Option Configuration ← command (.getConfiguration id)
  return found.filter (isVisible org inactive)

/-- The configurations of an organization by ascending ids. -/
def list (org : String) (inactive : Bool) : Service (List Configuration) := do
  let ids : List String ← command (.configurationIds org)
  if ids.isEmpty then return []
  let found : List Configuration ← command (.getConfigurations (ids.mergeSort (· ≤ ·)))
  return found.filter fun c => c.active || inactive

/-- Deactivate an active configuration; was there one? -/
def deactivate (org id : String) : Service Bool := do
  match ← find? org id false with
  | none => return false
  | some c =>
    let now ← now
    let _ ← command (.setConfiguration { c with active := false, updatedAt := some now })
    return true

end Sheetflow.Configurations
