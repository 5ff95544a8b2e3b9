import Sheetflow.File.Tree
import Sheetflow.Service.Program
import Sheetflow.Service.Settings

/-!
# The world programs run in

A world holds the store, the queue, the files, the clock and the settings. It also holds what will go
wrong: faults that make commands fail, and writes of others that come between the reading of a job and
its replacement. `Program.run` carries out a program in a world.
-/

namespace Sheetflow

/-- What a command does to the store or the queue; commands of one operation fail together. -/
inductive Operation where
  | get
  | set
  | mget
  | incr
  | decr
  | expire
  | sadd
  | smembers
  | zadd
  | zrevrange
  | watch
  | exec
  | ping
  | enqueue
  | queueCount
deriving DecidableEq, Repr

namespace Operation

def name : Operation → String
  | .get => "get"
  | .set => "set"
  | .mget => "mget"
  | .incr => "incr"
  | .decr => "decr"
  | .expire => "expire"
  | .sadd => "sadd"
  | .smembers => "smembers"
  | .zadd => "zadd"
  | .zrevrange => "zrevrange"
  | .watch => "watch"
  | .exec => "exec"
  | .ping => "ping"
  | .enqueue => "enqueue"
  | .queueCount => "queue.count"

def all : List Operation :=
  [.get, .set, .mget, .incr, .decr, .expire, .sadd, .smembers, .zadd, .zrevrange, .watch, .exec, .ping,
    .enqueue, .queueCount]

/-- Is it the store that carries the operation out, and not the queue? -/
def isOnStore : Operation → Bool
  | .enqueue => false
  | .queueCount => false
  | _ => true

def ofName? (s : String) : Option Operation := all.find? (·.name == s)

end Operation

/-- A fault that lets some calls of an operation pass and then makes some fail. -/
structure PlannedFault where
  operation : Operation
  after : Nat
  times : Nat
  fault : Fault

/-- Someone else's write of a job: what will stand under its id. -/
structure Race where
  id : String
  record : Job

/-- How a task was queued. -/
structure Publication where
  job : String
  timeout : Int
deriving DecidableEq

structure World where
  store : Store := {}
  /-- Queued payloads, the oldest first. -/
  queue : List Value := []
  publications : List Publication := []
  files : FileTree := []
  clock : Instant
  /-- How many ids have been made. -/
  ids : Nat := 0
  settings : Settings := {}
  faults : List PlannedFault := []
  races : List Race := []
  /-- Is there a connection to the store? -/
  connected : Bool := true

def IdKind.start : IdKind → String
  | .job => "job_"
  | .configuration => "cfg_"

/-- The id with a number; numbers are counted up, so that ids grow. -/
def IdKind.id (kind : IdKind) (n : Nat) : String := kind.start ++ String.ofList (Text.hex 32 n)

namespace World

/-- Count a call of an operation among the planned faults: what is left of them, and the fault if the
call fails. The first fault for the operation that is not used up counts the call. -/
def countCall (op : Operation) : List PlannedFault → List PlannedFault × Option Fault
  | [] => ([], none)
  | f :: rest =>
    if f.operation = op ∧ 0 < f.times then
      match f.after with
      | n + 1 => ({ f with after := n } :: rest, none)
      | 0 => ({ f with times := f.times - 1 } :: rest, some f.fault)
    else
      let (rest, fault) := countCall op rest
      (f :: rest, fault)

/-- Call an operation; `act` is what it does unless it fails. -/
def attempt {ρ : Type} (w : World) (op : Operation) (act : World → World × Except Fault ρ) :
    World × Except Fault ρ :=
  let (faults, fault) := countCall op w.faults
  let w := { w with faults, connected := w.connected || op.isOnStore }
  match fault with
  | some f => (w, .error f)
  | none => act w

def reply {ρ : Type} (w : World) (r : ρ) : World × Except Fault ρ := (w, .ok r)

def withStore (w : World) (s : Store) : World := { w with store := s }

/-- The write of someone else. -/
def applyRace (w : World) (r : Race) : World :=
  w.withStore { w.store with jobs := w.store.jobs.set r.id r.record }

/-- Replace a job, starting again after every write of someone else; `races` are those to come. -/
def updateJob (id : String) (update : Option Job → Except ServiceError Job) :
    List Race → World → World × Except Fault (Except ServiceError Job)
  | races, w =>
    w.attempt .watch fun w =>
      w.attempt .get fun w =>
        match update (w.store.jobs.get? id) with
        | .error e => w.reply (.error e)
        | .ok j =>
          w.attempt .exec fun w =>
            match races with
            | [] =>
              (w.withStore { w.store with jobs := w.store.jobs.set id j }).reply (.ok j)
            | race :: races => updateJob id update races { w.applyRace race with races }

/-- Carry out a command. -/
def perform (w : World) : (c : Command) → World × Except Fault c.Reply
  | .getConfiguration id => w.attempt .get fun w => w.reply (w.store.configurations.get? id)
  | .setConfiguration c =>
    w.attempt .set fun w =>
      (w.withStore { w.store with configurations := w.store.configurations.set c.id c }).reply ()
  | .getConfigurations ids =>
    w.attempt .mget fun w => w.reply (ids.filterMap w.store.configurations.get?)
  | .indexConfiguration org id =>
    w.attempt .sadd fun w => (w.withStore (w.store.addConfigurationId org id)).reply ()
  | .configurationIds org => w.attempt .smembers fun w => w.reply (w.store.configurationIds org)
  | .createJob j =>
    w.attempt .set fun w =>
      if (w.store.jobs.get? j.id).isSome then w.reply false
      else (w.withStore { w.store with jobs := w.store.jobs.set j.id j }).reply true
  | .getJob id => w.attempt .get fun w => w.reply (w.store.jobs.get? id)
  | .getJobs ids => w.attempt .mget fun w => w.reply (ids.filterMap w.store.jobs.get?)
  | .indexJob j =>
    w.attempt .zadd fun w =>
      (w.withStore (w.store.indexJob j.organization ⟨j.id, j.createdAt⟩)).reply ()
  | .newestJobs org stop => w.attempt .zrevrange fun w => w.reply (w.store.newestJobs org stop)
  | .updateJob id update => updateJob id update w.races w
  | .increment c =>
    w.attempt .incr fun w => (w.withStore (w.store.addTo c 1)).reply (w.store.count c + 1)
  | .decrement c =>
    w.attempt .decr fun w => (w.withStore (w.store.addTo c (-1))).reply (w.store.count c - 1)
  | .resetCounter c => w.attempt .set fun w => (w.withStore (w.store.setCounter c 0)).reply ()
  | .readCounter c => w.attempt .get fun w => w.reply (w.store.counters.get? c)
  | .setLifetime c seconds =>
    w.attempt .expire fun w => (w.withStore (w.store.setLifetime c seconds)).reply ()
  | .ping => if w.connected then w.attempt .ping fun w => w.reply true else w.reply false
  | .enqueue t =>
    w.attempt .enqueue fun w =>
      reply { w with
        queue := w.queue ++ [t.payload]
        publications := w.publications ++ [⟨t.job, w.settings.jobTimeout⟩] } ()
  | .queueLength => w.attempt .queueCount fun w => w.reply w.queue.length
  | .writeFile p bs =>
    let (files, r) := w.files.write p bs
    reply { w with files } r
  | .readFile p => w.reply (w.files.read p)

/-- The time on the clock. -/
def time (w : World) : DateTime := .ofInstant w.clock

end World

/-- Carry out a program. -/
def Program.run {α : Type} (p : Program α) (w : World) : World × α :=
  match p with
  | .done a => (w, a)
  | .now next => (next w.time).run w
  | .freshId kind next => (next (kind.id (w.ids + 1))).run { w with ids := w.ids + 1 }
  | .call c next =>
    let (w, r) := w.perform c
    (next r).run w

end Sheetflow
