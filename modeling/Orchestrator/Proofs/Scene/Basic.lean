import Orchestrator.Proofs.Daemon.Custody

/-!
# A daemon in the middle of calls

The daemon's operations on the queue and the pool are calls that take several steps, between which
others may act: a producer counts its job before or after it gets a slot, the workers are started one by
one, and whoever stops them signals, takes their handles and waits for one after another. A worker
without a job looks whether it was told to end, and then takes a job even if it is told so meanwhile.
A `Scene` is a daemon with the calls that are under way in it, and a run is a list of moves, made by
anyone in any order.

Submissions and calls are never forgotten, and a scene also remembers which jobs were put into the line
and which were taken out of it, so what becomes of them can be told from the scene alone.
-/
namespace Orchestrator

/-! ## The parts of operations -/

namespace Queue

/-- Counts a job as in flight. -/
def count (q : Queue) (job : Job) : Queue := { q with inFlight := q.inFlight.acquire job.scope }

/-- Puts a counted job into the slot that its producer was granted. -/
def send (q : Queue) (ticket : Ticket) (job : Job) : Queue :=
  { q with line := q.line ++ [job], granted := q.granted.erase ticket }

/-- Puts a counted job into a free slot. -/
def trySend (q : Queue) (job : Job) : Except JobError Queue :=
  if q.isClosed then .error .queueClosed
  else if q.hasSlot then .ok { q with line := q.line ++ [job] }
  else .error .queueFull

variable {q q' : Queue} {job : Job}

/-- A job is put into a free slot of a queue that is open. -/
theorem trySend_ok (h : q.trySend job = .ok q') :
    q.isClosed = false ∧ q.hasSlot = true ∧ q' = { q with line := q.line ++ [job] } := by
  unfold trySend at h
  split at h
  · cases h
  · rename_i hclosed
    split at h
    · rename_i hslot
      exact ⟨Bool.eq_false_iff.2 hclosed, hslot, (Except.ok.inj h).symm⟩
    · cases h

theorem trySend_error {e : JobError} (h : q.trySend job = .error e) :
    q.isClosed = true ∧ e = .queueClosed ∨
      q.isClosed = false ∧ q.hasSlot = false ∧ e = .queueFull := by
  unfold trySend at h
  split at h
  · rename_i hclosed
    exact .inl ⟨hclosed, (Except.error.inj h).symm⟩
  · rename_i hclosed
    split at h
    · cases h
    · rename_i hslot
      exact .inr ⟨Bool.eq_false_iff.2 hclosed, Bool.eq_false_iff.2 hslot, (Except.error.inj h).symm⟩

end Queue

namespace Pool

/-- Has one more worker. -/
def spawn (p : Pool) : Pool := { p with workers := p.workers ++ [.idle] }

/-- Tells the workers to end; without a worker that hears it, the word is lost. -/
def signal (p : Pool) : Pool := { p with isShutdown := p.isShutdown || !p.haveEnded }

/-- The workers whose handles nobody has taken. -/
def handles (p : Pool) : List Nat := if p.isAwaited then [] else List.range p.workers.length

/-- Hands the handles over. -/
def drained (p : Pool) : Pool := { p with isAwaited := p.isAwaited || !p.workers.isEmpty }

end Pool

/-- The daemon with its pool changed. -/
def Daemon.updatePool (s : Daemon) (f : Pool → Pool) : Daemon := { s with pool := s.pool.map f }

theorem Daemon.pool_updatePool {s : Daemon} {pool : Pool} (hpool : s.pool = some pool)
    (f : Pool → Pool) : (s.updatePool f).pool = some (f pool) := by
  rw [updatePool, hpool, Option.map_some]

/-- The daemon with everything changed that concerns neither queue nor pool. -/
def Daemon.withRest (s d : Daemon) : Daemon :=
  { d with queue := s.queue, pool := s.pool, locks := s.locks, finished := s.finished }

/-! ## Scenes -/

/-- How far a submission has come. -/
inductive Stage where
  /-- Its producer waits for a slot, or was granted one. -/
  | waiting
  /-- Its producer has a slot, and the job is counted. -/
  | counted
  /-- Its producer does not wait, and the job is counted. -/
  | offering
  /-- There was no slot, and the count is still to be taken back. -/
  | refusing (error : JobError)
  /-- The job was put into the line. -/
  | accepted
  | refused (error : JobError)
  | abandoned
  deriving DecidableEq, Repr

/-- A job that a producer wants to queue. Its number is the producer's ticket. -/
structure Submission where
  job : Job
  stage : Stage
  deriving DecidableEq

namespace Submission

/-- The job, if it is counted and not in the line. -/
def midway? (c : Submission) : Option Job :=
  match c.stage with
  | .counted | .offering | .refusing _ => some c.job
  | _ => none

/-- The job, if it was put into the line. -/
def accepted? (c : Submission) : Option Job :=
  match c.stage with
  | .accepted => some c.job
  | _ => none

/-- Was the producer told that the job is not queued, or did it go away? -/
def isTurnedAway (c : Submission) : Bool :=
  match c.stage with
  | .refused _ | .abandoned => true
  | _ => false

/-- What the producer was told. -/
def answer? (c : Submission) : Option (Except JobError Uuid) :=
  match c.stage with
  | .accepted => some (.ok c.job.id)
  | .refused e => some (.error e)
  | _ => none

end Submission

/-- How far the call has come that starts the workers. -/
inductive Launch where
  | never
  /-- It waits for the lock of the handles. -/
  | locking
  /-- It holds the lock, and has a number of workers left to start. -/
  | spawning (left : Nat)
  | returned
  deriving DecidableEq, Repr

/-- A call that stops the workers. -/
inductive Stop where
  /-- It has told the workers to end, and waits for the lock of the handles. -/
  | signalled
  /-- It waits for the end of workers, of those whose handles it took. -/
  | awaiting (took left : List Nat)
  | returned (took : List Nat)
  /-- It was dropped before it returned. -/
  | dropped
  deriving DecidableEq, Repr

/-- A daemon and the calls that are under way in it. -/
structure Scene where
  daemon : Daemon
  /-- Every submission there ever was. -/
  calls : List Submission := []
  /-- The jobs that were put into the line, in that order. -/
  accepted : List Job := []
  /-- The jobs that workers have taken, in that order. -/
  taken : List Job := []
  /-- The workers that were not told to end when they last looked. -/
  reaching : List Nat := []
  launch : Launch := .never
  /-- Every call there ever was that stops the workers. -/
  stops : List Stop := []

/-- What anyone may do next. -/
inductive Move where
  /-- A producer comes with a job, and waits if there is no slot. -/
  | come (job : Job)
  /-- A producer comes with a job, and does not wait. -/
  | offer (job : Job)
  /-- A submission goes one step on. -/
  | advance (ticket : Ticket)
  /-- A producer that waits goes away. -/
  | abandon (ticket : Ticket)
  /-- A worker takes a step. -/
  | work (i : Nat)
  /-- A worker without a job looks whether it was told to end. -/
  | look (i : Nat)
  /-- A worker that has looked takes a job. -/
  | reach (i : Nat)
  /-- A worker ends because nobody is left who could queue a job. -/
  | quit (i : Nat)
  /-- Somebody calls for the workers to be started. -/
  | start
  /-- The call that starts the workers gets the lock of the handles. -/
  | lock
  /-- It starts the next worker, or returns. -/
  | spawn
  /-- Somebody calls for the workers to be stopped. -/
  | stop
  /-- A call that stops the workers takes the handles there are. -/
  | drain (number : Nat)
  /-- It finds the next worker ended, or returns. -/
  | join (number : Nat)
  /-- It is dropped. -/
  | drop (number : Nat)
  /-- Something happens that concerns neither queue nor pool. -/
  | other (d : Daemon)

namespace Scene

/-- Workers that are not started yet, an empty queue, which may be closed, and no calls. -/
def opening (d : Daemon) (capacity : Nat) (p : Pool) : Scene where
  daemon := { d with
    queue := { Queue.new capacity with isClosed := d.queue.isClosed }
    pool := some { Pool.new p.concurrency with retryDelay := p.retryDelay, executor := p.executor }
    locks := {}
    finished := [] }

/-! ### What is seen of a scene -/

abbrev queue (s : Scene) : Queue := s.daemon.queue

/-- The jobs that workers have taken and not finished. -/
def held (s : Scene) : List Job := s.daemon.workers.filterMap Worker.held?

/-- The jobs that workers are at. -/
def running (s : Scene) : List Job := s.daemon.workers.filterMap Worker.job?

/-- The jobs that workers have finished. -/
def finished (s : Scene) : List Job := s.daemon.finished.map Prod.fst

/-- The jobs of submissions between their count and the line. -/
def midway (s : Scene) : List Job := s.calls.filterMap Submission.midway?

def HasPool (s : Scene) : Prop := ∃ pool, s.daemon.pool = some pool

/-- Has a call returned that stops the workers? -/
def HasStopped (s : Scene) : Prop := ∃ took, Stop.returned took ∈ s.stops

/-! ### Producers -/

/-- A submission has come to another stage. -/
def proceed (s : Scene) (ticket : Ticket) (job : Job) (stage : Stage) (queue : Queue) : Scene :=
  { s with
    daemon := { s.daemon with queue := queue }
    calls := s.calls.set ticket ⟨job, stage⟩ }

/-- A job is put into the line. -/
def accept (s : Scene) (ticket : Ticket) (job : Job) (queue : Queue) : Scene :=
  { s.proceed ticket job .accepted queue with accepted := s.accepted ++ [job] }

def come (s : Scene) (job : Job) : Scene :=
  match s.queue.enqueue s.calls.length job with
  | (.refused e, _) => { s with calls := s.calls ++ [⟨job, .refused e⟩] }
  | (_, queue) =>
    { s with daemon := { s.daemon with queue := queue }, calls := s.calls ++ [⟨job, .waiting⟩] }

def offer (s : Scene) (job : Job) : Scene :=
  match job.validate with
  | .error e => { s with calls := s.calls ++ [⟨job, .refused (.invalid e)⟩] }
  | .ok () =>
    { s with
      daemon := { s.daemon with queue := s.queue.count job }
      calls := s.calls ++ [⟨job, .offering⟩] }

def advance? (s : Scene) (ticket : Ticket) : Option Scene := do
  let ⟨job, stage⟩ ← s.calls[ticket]?
  match stage with
  | .waiting =>
    match s.queue.standing ticket with
    | .waiting => none
    | .granted => some (s.proceed ticket job .counted (s.queue.count job))
    | .refused e => some (s.proceed ticket job (.refused e) s.queue)
  | .counted => some (s.accept ticket job (s.queue.send ticket job))
  | .offering =>
    match s.queue.trySend job with
    | .ok queue => some (s.accept ticket job queue)
    | .error e => some (s.proceed ticket job (.refusing e) s.queue)
  | .refusing e => some (s.proceed ticket job (.refused e) (s.queue.finish job))
  | .accepted | .refused _ | .abandoned => none

def abandon? (s : Scene) (ticket : Ticket) : Option Scene := do
  let ⟨job, stage⟩ ← s.calls[ticket]?
  match stage with
  | .waiting => some (s.proceed ticket job .abandoned (s.queue.leave ticket))
  | _ => none

/-! ### Workers -/

/-- A worker has come from one state to another. -/
def worked (s : Scene) (i : Nat) (w w' : Worker) (daemon : Daemon) : Scene :=
  { s with
    daemon := daemon
    taken := s.taken ++ History.taken (w.change w')
    reaching := s.reaching.filter (· ≠ i) }

def work? (s : Scene) (i : Nat) : Option Scene := do
  let w ← s.daemon.workers[i]?
  let daemon ← s.daemon.stepWorker i
  let w' ← daemon.workers[i]?
  return s.worked i w w' daemon

def look? (s : Scene) (i : Nat) : Option Scene := do
  let pool ← s.daemon.pool
  match pool.workers[i]? with
  | some .idle => if pool.isShutdown then none else some { s with reaching := i :: s.reaching }
  | _ => none

def reach? (s : Scene) (i : Nat) : Option Scene := do
  let (job, queue) ← s.queue.take?
  match s.daemon.workers[i]? with
  | some .idle =>
    if i ∈ s.reaching then
      some (s.worked i .idle (.taken job) ({ s.daemon with queue }.setWorker i (.taken job)))
    else none
  | _ => none

def quit? (s : Scene) (i : Nat) : Option Scene :=
  match s.queue.line, s.daemon.workers[i]? with
  | [], some .idle => some (s.worked i .idle .stopped (s.daemon.setWorker i .stopped))
  | _, _ => none

/-! ### The pool -/

def start? (s : Scene) : Option Scene := do
  let pool ← s.daemon.pool
  if pool.isStarted then some s
  else some { s with
    daemon := s.daemon.updatePool fun p => { p with isStarted := true }
    launch := .locking }

def lock? (s : Scene) : Option Scene := do
  let pool ← s.daemon.pool
  match s.launch with
  | .locking => some { s with launch := .spawning pool.concurrency }
  | _ => none

def spawn? (s : Scene) : Option Scene :=
  match s.launch with
  | .spawning (left + 1) =>
    some { s with daemon := s.daemon.updatePool Pool.spawn, launch := .spawning left }
  | .spawning 0 => some { s with launch := .returned }
  | _ => none

def stop (s : Scene) : Scene :=
  { s with daemon := s.daemon.updatePool Pool.signal, stops := s.stops ++ [.signalled] }

def drain? (s : Scene) (number : Nat) : Option Scene := do
  let pool ← s.daemon.pool
  match s.stops[number]?, s.launch with
  | some .signalled, .spawning _ => none
  | some .signalled, _ =>
    some { s with
      daemon := s.daemon.updatePool Pool.drained
      stops := s.stops.set number (.awaiting pool.handles pool.handles) }
  | _, _ => none

def join? (s : Scene) (number : Nat) : Option Scene := do
  match ← s.stops[number]? with
  | .awaiting took (i :: left) =>
    match s.daemon.workers[i]? with
    | some w =>
      if w.hasEnded then some { s with stops := s.stops.set number (.awaiting took left) } else none
    | none => none
  | .awaiting took [] => some { s with stops := s.stops.set number (.returned took) }
  | _ => none

def drop? (s : Scene) (number : Nat) : Option Scene := do
  match ← s.stops[number]? with
  | .signalled | .awaiting .. => some { s with stops := s.stops.set number .dropped }
  | _ => none

/-! ### Runs -/

/-- The scene after a move, if the move can be made. -/
def step? (s : Scene) : Move → Option Scene
  | .come job => some (s.come job)
  | .offer job => some (s.offer job)
  | .advance ticket => s.advance? ticket
  | .abandon ticket => s.abandon? ticket
  | .work i => s.work? i
  | .look i => s.look? i
  | .reach i => s.reach? i
  | .quit i => s.quit? i
  | .start => s.start?
  | .lock => s.lock?
  | .spawn => s.spawn?
  | .stop => some s.stop
  | .drain number => s.drain? number
  | .join number => s.join? number
  | .drop number => s.drop? number
  | .other d => some { s with daemon := s.daemon.withRest d }

/-- Makes moves in turn, passing over those that cannot be made. -/
def run (s : Scene) (moves : List Move) : Scene := moves.foldl (fun s m => (s.step? m).getD s) s

theorem run_append (s : Scene) (moves moves' : List Move) :
    s.run (moves ++ moves') = (s.run moves).run moves' := List.foldl_append

end Scene

end Orchestrator
