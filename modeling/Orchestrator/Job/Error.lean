import Orchestrator.Validation
import Orchestrator.Workflow

/-!
Why a job is not accepted, or why an attempt of it fails.
-/
namespace Orchestrator

/-- Why a job is not accepted, or why an attempt of it fails. -/
inductive JobError where
  | invalid (error : ValidationError)
  /-- No slot is free, and the caller does not wait for one. -/
  | queueFull
  | queueClosed
  /-- A step of the attempt did not succeed; its cause is kept as it is said. -/
  | workflow (error : StepError String)
  deriving DecidableEq, Repr

def JobError.message : JobError → String
  | .invalid error => error.message
  | .queueFull => "job queue is full"
  | .queueClosed => "job queue is closed"
  | .workflow error => error.message id

end Orchestrator
