import Orchestrator.Daemon.Clock

/-!
What is done to a daemon from outside: its workers and its watcher for drift are started and told to
end, jobs are taken out of the queue by hand, and finished jobs are waited for.
-/
namespace Orchestrator.Daemon

/-! ## Workers -/

/-- Starts the workers. -/
def startWorkers (s : Daemon) : Daemon := { s with pool := s.pool.map Pool.start }

/-- Tells the workers to end; the answer tells whether their end is still to be waited for. -/
def stopWorkers (s : Daemon) : Bool × Daemon :=
  match s.pool with
  | none => (false, s)
  | some pool => let (awaits, pool) := pool.stop; (awaits, { s with pool := some pool })

/-- Have all workers ended? -/
def workersHaveEnded (s : Daemon) : Bool := s.workers.all Worker.hasEnded

/-- Lets time go by until all workers have ended. -/
def awaitWorkers (s : Daemon) : Daemon := s.advanceUntil workersHaveEnded (s.now + patience)

/-- Waits until `count` jobs have been finished, or for some time. -/
def awaitFinished (s : Daemon) (count milliseconds : Nat) : Daemon :=
  s.advanceUntil (fun s => count ≤ s.finished.length) (s.now + milliseconds)

/-! ## The queue -/

/-- Takes a job out by hand. Idle workers stand before everybody else. -/
def receive? (s : Daemon) : Option (Job × Daemon) :=
  if s.workers.any fun w => w matches .idle then none
  else (s.queue.take?).map fun (job, queue) => (job, { s with queue := queue })

/-- Gives up taking jobs out, by hand or by workers. -/
def closeQueue (s : Daemon) : Daemon := { s with pool := none, queue := s.queue.close }

/-! ## The watcher for drift -/

/-- Sets a watcher for drift to work. -/
def startWatch (s : Daemon) : Daemon := { s with watch := some {} }

/-- Tells the watcher for drift to end. -/
def stopWatch (s : Daemon) : Daemon :=
  { s with watch := s.watch.map fun w => { w with isShutdown := true } }

/-- Has the watcher for drift ended? -/
def watchHasEnded (s : Daemon) : Bool :=
  match s.watch with
  | some ⟨.ended, _⟩ => true
  | _ => false

/-! ## The engine -/

/-- The daemon with its engine changed from outside. -/
def updateEngine (s : Daemon) (f : Engine.Memory → Engine.Memory) : Daemon :=
  { s with engine := { s.engine with memory := f s.engine.memory } }

/-- Arranges a fault, behind those already arranged. -/
def arrange (s : Daemon) (f : Engine.Fault) : Daemon :=
  { s with engine := { s.engine with faults := s.engine.faults ++ [f] } }

/-- The calls in the engine's log, and the daemon with an empty one. -/
def takeLog (s : Daemon) : List Engine.LogEntry × Daemon :=
  (s.engine.log, { s with engine := { s.engine with log := [] } })

/-! ## Sockets -/

/-- Changes a socket. -/
def updateSocket (s : Daemon) (i : Nat) (f : Socket → Socket) : Daemon :=
  { s with sockets := s.sockets.modify i f }

end Orchestrator.Daemon
