import Orchestrator.Fleet

/-!
Looking for drift: every saved deployment with fewer running containers than its scale gets a job
that rolls it out again, unless one is queued or running already. A deployment whose containers
cannot be listed does not hinder the others.
-/
namespace Orchestrator

/-- What was found of a deployment. -/
inductive Drift where
  /-- A job was queued. -/
  | enqueued
  /-- Enough containers run. -/
  | satisfied
  /-- A job is queued or running, or no slot is free. -/
  | skipped
  /-- The containers could not be listed, or the job was refused. -/
  | failed
  deriving DecidableEq, Repr

/-- What one pass found, by deployment. -/
abbrev DriftReport := List (String × Drift)

namespace DriftReport

/-- The deployments of which one thing was found, in the order of the pass. -/
def names (report : DriftReport) (found : Drift) : List String :=
  (report.filter fun entry => entry.2 = found).map Prod.fst

end DriftReport

namespace Drift

/-- What is found of a job that was offered to the queue. -/
def ofOffer : Except JobError Uuid → Drift
  | .ok _ => .enqueued
  | .error .queueFull => .skipped
  | .error _ => .failed

/-- Compares a deployment with its containers, and offers a job when some are missing. A panic of
the engine ends the pass. -/
def reconcile (attempts : UInt32) (d : Deployment) : Task Empty Drift :=
  ExceptT.mk do
    match ← (Fleet.listOwned d.name).run with
    | .error (.panic text) => return .error (.panic text)
    | .error (.error _) => return .ok .failed
    | .ok containers =>
      if (containers.filter Container.isRunning).length ≥ d.scale.toNat then
        return .ok .satisfied
      else return .ok (ofOffer (← Program.request (.offer d attempts)))

/-- What is found of a deployment. -/
def check (attempts : UInt32) (d : Deployment) : Task Empty Drift := do
  if ← Task.ask (.isBusy d.name) then return .skipped else reconcile attempts d

/-- One pass over deployments. -/
def poll (attempts : UInt32) : List Deployment → Task Empty DriftReport
  | [] => pure []
  | d :: rest => do
    let found ← check attempts d
    return (d.name, found) :: (← poll attempts rest)

end Drift

end Orchestrator
