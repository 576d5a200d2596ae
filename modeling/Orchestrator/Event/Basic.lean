import Orchestrator.Activity
import Orchestrator.Json.Printer

/-!
Events: what is told to the followers of a deployment while a job runs.
-/
namespace Orchestrator

/-- Where in the life of a job an event was raised. -/
inductive Phase where
  | started
  | step
  | retrying
  | failed
  | completed
  deriving DecidableEq, Repr

namespace Phase

def name : Phase → String
  | .started => "started"
  | .step => "step"
  | .retrying => "retrying"
  | .failed => "failed"
  | .completed => "completed"

/-- The phase with a name. -/
def ofName? (name : String) : Option Phase :=
  [Phase.started, .step, .retrying, .failed, .completed].find? (·.name = name)

end Phase

/-- One message about the progress of a job. -/
structure Event where
  jobId : Uuid
  phase : Phase
  message : String
  deriving DecidableEq

namespace Event

open Orchestrator.Json

/-- The JSON form. -/
def toJson (e : Event) : Json :=
  Json.record [("job_id", Json.text e.jobId.render), ("phase", Json.text e.phase.name),
    ("message", Json.text e.message)]

/-- The text sent to a follower. -/
def wireText (e : Event) : String := e.toJson.render

/-- A phase. -/
def asPhase : Json → Decoded Phase := asChoice Phase.ofName? .direct

/-- Reads the JSON form. -/
def ofJson (j : Json) : Decoded Event := do
  let given ← asRecord .direct
    [required "job_id" Activity.asUuid, required "phase" asPhase, required "message" asText] j
  return ⟨← given.get "job_id" Activity.asUuid, ← given.get "phase" asPhase,
    ← given.get "message" asText⟩

end Event

end Orchestrator
