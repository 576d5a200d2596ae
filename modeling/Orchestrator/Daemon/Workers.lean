import Orchestrator.Daemon.Basic

/-!
The steps of workers. Taking a job out of the queue, asking for the lock of its deployment, getting
the lock, each request of an attempt, and finishing the job are steps of their own, between which
others may act. Workers run in parallel, so one of them may ask for a lock before another that took
an earlier job of the same deployment.
-/
namespace Orchestrator.Daemon

/-- The workers. -/
def workers (s : Daemon) : List Worker :=
  match s.pool with
  | none => []
  | some pool => pool.workers

/-- The daemon with a worker in another state. -/
def setWorker (s : Daemon) (i : Nat) (w : Worker) : Daemon :=
  { s with pool := s.pool.map fun pool => { pool with workers := pool.workers.set i w } }

/-- A worker begins an attempt of its job. -/
def beginAttempt (s : Daemon) (pool : Pool) (i : Nat) (job : Job) (attempt : Nat) : Daemon :=
  let job := job.attempted
  let (program, executor) := pool.executor.begin s.fleet job
  { s with pool := some { pool with
      executor := executor
      workers := pool.workers.set i (.attempting job attempt program) } }

/-- What the followers of a deployment are told when a job is finished. -/
def lastEvent (job : Job) : JobOutcome → Event
  | .succeeded => ⟨job.id, .completed, job.kind.name⟩
  | .failed => ⟨job.id, .failed, job.status.errors.getLast?.getD ""⟩

/-- A worker finishes its job, and is idle again. -/
def complete (s : Daemon) (i : Nat) (job : Job) (outcome : JobOutcome) : Daemon :=
  let (now, s) := s.stamp
  let job := job.completed outcome now
  let s := s.announce job.scope (lastEvent job outcome)
  { s with
    store := s.store.recordActivity (job.activity now)
    queue := s.queue.finish job
    locks := s.locks.leave job.scope i
    finished := s.finished ++ [(job, s.now)] }.setWorker i .idle

/-- What a worker does when an attempt has ended. A panic ends the worker, and leaves its job in
flight. -/
def endAttempt (s : Daemon) (pool : Pool) (i : Nat) (attempt : Nat)
    (result : Except (Failure JobError) Unit) (job : Job) : Daemon :=
  match result with
  | .ok () => s.complete i job .succeeded
  | .error (.panic _) =>
    { s with locks := s.locks.leave job.scope i }.setWorker i (.crashed job)
  | .error (.error e) =>
    let job := job.withFailure e.message
    if attempt < max job.attempts.toNat 1 then
      (s.announce job.scope ⟨job.id, .retrying, e.message⟩).setWorker i
        (.resting job attempt (s.now + pool.retryDelay))
    else s.complete i job .failed

/-- A worker takes a step, if it can. -/
def stepWorker (s : Daemon) (i : Nat) : Option Daemon := do
  let pool ← s.pool
  match ← pool.workers[i]? with
  | .idle =>
    if pool.isShutdown then some (s.setWorker i .stopped)
    else
      match s.queue.take? with
      | some (job, queue) => some ({ s with queue }.setWorker i (.taken job))
      | none => if s.queue.isClosed then some (s.setWorker i .stopped) else none
  | .taken job =>
    some ({ s with locks := s.locks.join job.scope i }.setWorker i (.locking job))
  | .locking job =>
    if s.locks.isHeldBy job.scope i then
      let (now, s) := s.stamp
      let s := s.announce job.scope ⟨job.id, .started, job.kind.name⟩
      some (s.beginAttempt pool i (job.started now) 1)
    else none
  | .attempting _ attempt (.done (result, job)) => some (s.endAttempt pool i attempt result job)
  | .attempting job attempt (.ask (.pause milliseconds) next) =>
    some (s.setWorker i (.sleeping job attempt (s.now + milliseconds) (next ())))
  | .attempting job attempt (.ask request next) =>
    let (answer, s) := s.serve request
    some (s.setWorker i (.attempting job attempt (next answer)))
  | .sleeping job attempt wake rest =>
    if wake ≤ s.now then some (s.setWorker i (.attempting job attempt rest)) else none
  | .resting job attempt wake =>
    if wake ≤ s.now then some (s.beginAttempt pool i job (attempt + 1)) else none
  | .stopped | .crashed _ => none

end Orchestrator.Daemon
