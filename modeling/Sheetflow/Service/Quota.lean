import Sheetflow.Service.Program
import Sheetflow.Service.Settings

/-!
# Admission

An organization may have so many jobs under way and so many in a month, and no file may be too large.
`reserve` takes one unit of each count and gives them back if a limit was passed; units are returned by
`release` and `refund`. Counts never stay below zero.
-/

namespace Sheetflow.Quota

open Service

/-- How long a monthly count is kept, in seconds. -/
def monthlyLifetime : Nat := 40 * 24 * 60 * 60

def monthly (org : String) (t : DateTime) : Counter := .monthly org t.date.monthText

/-- What the counts of an organization were found to be. -/
structure Counts where
  active : Option Int
  monthly : Option Int
deriving DecidableEq

inductive Decision where
  | allowed (counts : Counts)
  | denied (reason : String) (counts : Counts)
deriving DecidableEq

/-- A file size in megabytes. -/
def megabytes (size : Int) : Double := .ofSignedRatio size (1024 * 1024)

/-- The reason to refuse a file, if it is too large. -/
def sizeRefusal? (s : Settings) (size : Int) : Option String :=
  let mb := megabytes size
  if s.maxFileSize.isLimit && s.maxFileSize.toDouble.lt mb then
    some ("File size (" ++ mb.tenthsText ++ "MB) exceeds plan limit of " ++ s.maxFileSize.text ++ "MB")
  else none

/-- Is a count beyond a limit? A limit of zero is none. -/
def exceeds (limit n : Int) : Bool := limit != 0 && limit < n

/-- Take a unit of each count for a file of this size. -/
def reserve (s : Settings) (org : String) (size : Int) : Service Decision := do
  match sizeRefusal? s size with
  | some reason => return .denied reason ⟨none, none⟩
  | none =>
    let month := monthly org (← now)
    let used : Int ← command (.increment month)
    if used = 1 then
      let _ ← command (.setLifetime month monthlyLifetime)
    if exceeds s.monthlyLimit used then
      let _ : Int ← command (.decrement month)
      return .denied ("Monthly conversion limit reached (" ++ toString s.monthlyLimit ++ ")")
        ⟨none, some (used - 1)⟩
    else
      let active : Int ← command (.increment (.active org))
      if exceeds s.concurrentLimit active then
        let _ : Int ← command (.decrement (.active org))
        let _ : Int ← command (.decrement month)
        return .denied ("Concurrent conversion limit reached (" ++ toString s.concurrentLimit ++ ")")
          ⟨some (active - 1), none⟩
      else return .allowed ⟨some active, some used⟩

/-- Take one from a count, which does not stay below zero. -/
def giveBack (c : Counter) : Service Int := do
  let left : Int ← command (.decrement c)
  if left < 0 then
    let _ ← command (.resetCounter c)
    return 0
  else return left

/-- Return the unit of a job that has ended. -/
def release (org : String) : Service Unit := do
  let _ ← giveBack (.active org)

/-- Return the monthly unit of a job that was not completed. -/
def refund (org : String) : Service Int := do giveBack (monthly org (← now))

/-- The counts of an organization and its limits. -/
structure Usage where
  active : Int
  monthly : Int
  settings : Settings

def usage (s : Settings) (org : String) : Service Usage := do
  let active : Option Int ← command (.readCounter (.active org))
  let used : Option Int ← command (.readCounter (monthly org (← now)))
  return ⟨active.getD 0, used.getD 0, s⟩

end Sheetflow.Quota
