import Orchestrator.Drift
import Orchestrator.Engine.Faults
import Orchestrator.Event.Hub
import Orchestrator.Pool
import Orchestrator.Queue.Basic
import Orchestrator.Queue.Locks
import Orchestrator.Socket
import Orchestrator.Store.Typed

/-!
The whole daemon: store, engine, queue, workers, followers and clock as one value, and how it
answers the requests of programs. Time is counted in milliseconds and moves only when it is told
to; the stamps of jobs and containers come from a clock of their own that never shows a time twice.
-/
namespace Orchestrator

/-- A producer with a job it wants to queue. -/
structure Producer where
  ticket : Ticket
  job : Job

/-- What the watcher for drift is about to do. -/
inductive Watcher where
  /-- It begins a pass. -/
  | starting
  /-- It makes a pass, of which a program is left. -/
  | polling (rest : Program (Except (Failure Empty) DriftReport))
  /-- It pauses up to a time. -/
  | resting (wake : Nat)
  | ended

/-- The watcher for drift. -/
structure Watch where
  state : Watcher := .starting
  /-- Was it told to end? -/
  isShutdown : Bool := false

/-- The whole daemon. -/
structure Daemon where
  /-- Milliseconds since the start. -/
  now : Nat := 0
  /-- The stamp before the first one. -/
  epoch : Instant := .epoch
  /-- How many stamps were given. -/
  stamps : Nat := 0
  /-- How many jobs were made. -/
  jobs : Nat := 0
  /-- The identifier of each job by its number. -/
  jobId : Nat → Uuid := fun n => ⟨BitVec.ofNat 128 n⟩
  /-- How many endings of names were given. -/
  names : Nat := 0
  /-- The ending of each name by its number. -/
  ending : Nat → String := fun n => String.ofList (Text.hexPadded 8 n)
  engine : Engine.FaultyEngine := {}
  store : Store := .new
  fleet : Fleet := {}
  hub : Hub := {}
  queue : Queue := .new 1
  /-- The next producer's ticket. -/
  nextTicket : Ticket := 0
  /-- The producers that have not put their jobs into the queue yet. -/
  producers : List Producer := []
  /-- What became of the producers that waited. -/
  outcomes : List (Ticket × Except JobError Uuid) := []
  pool : Option Pool := none
  /-- The locks that workers hold while they have a job. -/
  locks : Locks := {}
  /-- The jobs that workers have finished, oldest first, with the time of their end. -/
  finished : List (Job × Nat) := []
  /-- Attempts of the jobs that the watcher for drift queues. -/
  driftAttempts : UInt32 := 1
  /-- Milliseconds between two passes of the watcher for drift. -/
  pollInterval : Nat := 30000
  watch : Option Watch := none
  /-- Attempts of the jobs that are asked for by HTTP. -/
  apiAttempts : UInt32 := 3
  /-- Every socket there ever was. -/
  sockets : List Socket := []

namespace Daemon

instance : Inhabited Daemon := ⟨{}⟩

/-! ## Stamps and identifiers -/

/-- The instant a number of microseconds after another. -/
def after (t : Instant) (micros : Nat) : Instant :=
  let nano := t.nano % 1000000000 + micros * 1000
  match t.addSeconds? (nano / 1000000000 : Nat) with
  | none => t
  | some u => (Instant.ofParts? u.days u.second (nano % 1000000000)).getD t

/-- The next stamp. -/
def stamp (s : Daemon) : Instant × Daemon :=
  (after s.epoch (s.stamps + 1), { s with stamps := s.stamps + 1 })

/-- The next job's identifier. -/
def newId (s : Daemon) : Uuid × Daemon := (s.jobId (s.jobs + 1), { s with jobs := s.jobs + 1 })

/-- A new job. -/
def newJob (s : Daemon) (scope : String) (work : Work) (attempts : UInt32) : Job × Daemon :=
  let (id, s) := s.newId
  let (now, s) := s.stamp
  (Job.new id now scope work attempts, s)

/-- A new job that rolls a deployment out. -/
def newRollout (s : Daemon) (d : Deployment) (attempts : UInt32) : Job × Daemon :=
  s.newJob d.name (.create d [] []) attempts

/-- A new job that tears a deployment down. -/
def newTeardown (s : Daemon) (d : Deployment) (attempts : UInt32) : Job × Daemon :=
  s.newJob d.name (.delete d []) attempts

/-! ## Answering requests -/

/-- Raises an event. -/
def announce (s : Daemon) (deployment : String) (e : Event) : Daemon :=
  { s with hub := (s.hub.emit deployment e).2 }

/-- Offers a job to the queue. -/
def offer (s : Daemon) (job : Job) : Except JobError Uuid × Daemon :=
  let (outcome, queue) := s.queue.offer job
  (outcome.map fun _ => job.id, { s with queue := queue })

/-- Answers a request at once. -/
def serve : (r : Request) → Daemon → r.Answer × Daemon
  | .engine call, s =>
    let (now, s) := s.stamp
    let (reply, engine) := s.engine.serve now call
    (reply, { s with engine := engine })
  | .secret deployment key, s => (s.store.getSecret deployment key, s)
  | .suffix, s => (s.ending (s.names + 1), { s with names := s.names + 1 })
  | .pause _, s => ((), s)
  | .announce deployment e, s => ((), s.announce deployment e)
  | .isBusy deployment, s => (s.queue.inFlight.contains deployment, s)
  | .offer config attempts, s =>
    let (job, s) := s.newRollout config attempts
    s.offer job

end Daemon

end Orchestrator
