import Orchestrator.Daemon.Basic

/-!
Putting a daemon together as its settings say. Nothing runs yet: the workers are started, and the
watcher for drift is set to work, by whoever runs the daemon.
-/
namespace Orchestrator.Daemon

/-- The policy that the settings give for new containers. -/
def healthPolicy (s : HealthSettings) : HealthPolicy := ⟨s.retries, s.backoffBase⟩

/-- The daemon of some settings; `none` when its queue would be longer than one can be. -/
def ofSettings? (s : Settings) : Option Daemon := do
  let queue ← Queue.open? s.jobs.queueCapacity.toNat
  return {
    fleet := ⟨s.engine.network, healthPolicy s.health⟩
    queue := queue
    pool := some { Pool.new s.jobs.workers.toNat with retryDelay := s.jobs.retryDelay.toNat }
    driftAttempts := s.jobs.deploymentAttempts
    pollInterval := s.scheduler.pollInterval.toNat
    apiAttempts := s.jobs.deploymentAttempts }

/-- The daemon of some settings around the store that was opened for it, or the error that kept the
store from being opened; `none` when it panics. -/
def build? {ε : Type} (opened : Except ε Store) (s : Settings) : Option (Except ε Daemon) :=
  match opened with
  | .error e => some (.error e)
  | .ok store => (ofSettings? s).map fun d => .ok { d with store := store }

end Orchestrator.Daemon
