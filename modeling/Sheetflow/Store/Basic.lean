import Sheetflow.Configuration.Basic
import Sheetflow.Job.Basic
import Sheetflow.Number.Double
import Sheetflow.Table

/-!
# The store

The store keeps configurations and jobs by id, an index of each for every organization, and counters.
Everything in it has a key, by which it can be deleted and shown.
-/

namespace Sheetflow

/-- What is counted for an organization. -/
inductive Counter where
  | active (organization : String)
  | monthly (organization month : String)
deriving DecidableEq, Repr

/-- A job in the index of its organization. -/
structure IndexedJob where
  id : String
  createdAt : DateTime
deriving DecidableEq

structure Store where
  configurations : Table String Configuration := []
  configurationIndex : Table String (List String) := []
  jobs : Table String Job := []
  jobIndex : Table String (List IndexedJob) := []
  counters : Table Counter Int := []
  /-- The lifetimes in seconds that counters were given. -/
  lifetimes : Table Counter Nat := []

def Counter.key : Counter → String
  | .active org => "mutate:quota:" ++ org ++ ":active"
  | .monthly org month => "mutate:quota:" ++ org ++ ":usage:" ++ month

namespace Store

def configurationKey (id : String) : String := "mutate:config:" ++ id

def configurationIndexKey (org : String) : String := "mutate:org:" ++ org ++ ":configs"

def jobKey (id : String) : String := "mutate:job:" ++ id

def jobIndexKey (org : String) : String := "mutate:org:" ++ org ++ ":jobs"

/-- The ids of the configurations of an organization. -/
def configurationIds (s : Store) (org : String) : List String := (s.configurationIndex.get? org).getD []

def addConfigurationId (s : Store) (org id : String) : Store :=
  let ids := s.configurationIds org
  if id ∈ ids then s else { s with configurationIndex := s.configurationIndex.set org (ids ++ [id]) }

/-- The indexed jobs of an organization. -/
def indexedJobs (s : Store) (org : String) : List IndexedJob := (s.jobIndex.get? org).getD []

/-- Index a job; one that is indexed already gets the new time. -/
def indexJob (s : Store) (org : String) (entry : IndexedJob) : Store :=
  let others := (s.indexedJobs org).filter fun e => e.id ≠ entry.id
  { s with jobIndex := s.jobIndex.set org (others ++ [entry]) }

/-- Does one job come before another when the newest are listed first? Of jobs of one time the one with
the larger id comes first. -/
def newerFirst (a b : IndexedJob) : Bool :=
  if a.createdAt.toInstant = b.createdAt.toInstant then b.id ≤ a.id
  else b.createdAt.toInstant < a.createdAt.toInstant

/-- The part of a list from its start to the element at index `stop`, where a negative index counts
from the end. -/
def upTo {α : Type} (xs : List α) (stop : Int) : List α :=
  let last := if stop < 0 then stop + xs.length else stop
  xs.take (last + 1).toNat

/-- The ids of the newest jobs of an organization, up to an index. -/
def newestJobs (s : Store) (org : String) (stop : Int) : List String :=
  (upTo ((s.indexedJobs org).mergeSort newerFirst) stop).map IndexedJob.id

def count (s : Store) (c : Counter) : Int := (s.counters.get? c).getD 0

/-- Add to a counter, which starts at zero. -/
def addTo (s : Store) (c : Counter) (n : Int) : Store :=
  { s with counters := s.counters.set c (s.count c + n) }

/-- Set a counter, which then lives on. -/
def setCounter (s : Store) (c : Counter) (n : Int) : Store :=
  { s with counters := s.counters.set c n, lifetimes := s.lifetimes.erase c }

/-- Limit the lifetime of a counter that is there. -/
def setLifetime (s : Store) (c : Counter) (seconds : Nat) : Store :=
  if (s.counters.get? c).isSome then { s with lifetimes := s.lifetimes.set c seconds } else s

/-- The time of a job as a number of seconds. -/
def score (t : DateTime) : Double :=
  match t.offset with
  | some _ => .ofSignedRatio t.toInstant 1000000
  | none => .add (.ofInt (Int.fdiv t.toInstant 1000000)) (.ofRatio false t.micro 1000000)

/-- All keys with what they hold. -/
def entries (s : Store) : List (String × Value) :=
  s.configurations.map (fun (id, c) => (configurationKey id, c.dump)) ++
    s.configurationIndex.map (fun (org, ids) =>
      (configurationIndexKey org, Value.texts (ids.mergeSort (· ≤ ·)))) ++
    s.jobs.map (fun (id, j) => (jobKey id, j.dump)) ++
    s.jobIndex.map (fun (org, es) => (jobIndexKey org, .list
      ((es.mergeSort fun a b => a.id ≤ b.id).map fun e => .list [.str e.id, .float (score e.createdAt)]))) ++
    s.counters.map (fun (c, n) => (c.key, .str (toString n)))

/-- Delete what has a key. -/
def delete (s : Store) (key : String) : Store :=
  { configurations := s.configurations.filter fun e => configurationKey e.1 ≠ key
    configurationIndex := s.configurationIndex.filter fun e => configurationIndexKey e.1 ≠ key
    jobs := s.jobs.filter fun e => jobKey e.1 ≠ key
    jobIndex := s.jobIndex.filter fun e => jobIndexKey e.1 ≠ key
    counters := s.counters.filter fun e => e.1.key ≠ key
    lifetimes := s.lifetimes.filter fun e => e.1.key ≠ key }

def hasKey (s : Store) (key : String) : Bool := s.entries.any fun e => e.1 == key

end Store

end Sheetflow
