import Orchestrator.Activity
import Orchestrator.Deployment.Json

/-!
Jobs: one deployment to roll out or to tear down, with the bookkeeping of its attempts.
-/
namespace Orchestrator

/-- What a job does. -/
inductive JobKind where
  | create
  | delete
  deriving DecidableEq, Repr

def JobKind.name : JobKind → String
  | .create => "create"
  | .delete => "delete"

def JobKind.ofName? (name : String) : Option JobKind :=
  [JobKind.create, .delete].find? (·.name = name)

/-- The work of a job: a deployment, the containers it had when the attempt began and, for a
rollout, the containers the attempt made. -/
inductive Work where
  | create (config : Deployment) (current new : List Container)
  | delete (config : Deployment) (current : List Container)
  deriving DecidableEq

namespace Work

def kind : Work → JobKind
  | .create .. => .create
  | .delete .. => .delete

def config : Work → Deployment
  | .create config _ _ => config
  | .delete config _ => config

/-- The containers the deployment had when the attempt began. -/
def current : Work → List Container
  | .create _ current _ => current
  | .delete _ current => current

/-- The containers the attempt made. -/
def new : Work → List Container
  | .create _ _ new => new
  | .delete _ _ => []

end Work

/-- How a finished job ended. -/
inductive JobOutcome where
  | succeeded
  | failed
  deriving DecidableEq, Repr

def JobOutcome.name : JobOutcome → String
  | .succeeded => "succeeded"
  | .failed => "failed"

def JobOutcome.ofName? (name : String) : Option JobOutcome :=
  [JobOutcome.succeeded, .failed].find? (·.name = name)

/-- The attempts of a job so far. -/
structure JobStatus where
  executionCount : UInt32 := 0
  failureCount : UInt32 := 0
  /-- One entry for each failed attempt, oldest first. -/
  errors : List String := []
  outcome : Option JobOutcome := none
  deriving DecidableEq

/-- One unit of deployment work. -/
structure Job where
  id : Uuid
  /-- The name of the deployment the job is for. -/
  scope : String
  work : Work
  /-- The most attempts the job may have. -/
  attempts : UInt32
  status : JobStatus
  enqueuedAt : Instant
  startedAt : Option Instant
  completedAt : Option Instant
  deriving DecidableEq

namespace Job

/-- A job that has not been tried. -/
def new (id : Uuid) (now : Instant) (scope : String) (work : Work) (attempts : UInt32) : Job :=
  ⟨id, scope, work, attempts, {}, now, none, none⟩

/-- The job that rolls a deployment out. -/
def create (id : Uuid) (now : Instant) (config : Deployment) (attempts : UInt32) : Job :=
  new id now config.name (.create config [] []) attempts

/-- The job that tears a deployment down. -/
def delete (id : Uuid) (now : Instant) (config : Deployment) (attempts : UInt32) : Job :=
  new id now config.name (.delete config []) attempts

/-- The job that tears down the containers of a deployment that is no longer saved. -/
def deleteOrphaned (id : Uuid) (now : Instant) (name : String) (attempts : UInt32) : Job :=
  delete id now (Deployment.new name "") attempts

def kind (j : Job) : JobKind := j.work.kind

def config (j : Job) : Deployment := j.work.config

/-- Refuses a job without a namespace, for another deployment, or without attempts. -/
def validate (j : Job) : Except ValidationError Unit :=
  if Text.isBlankText j.scope then .error (.invalidJob .emptyNamespace)
  else if j.scope ≠ j.config.name then
    .error (.invalidJob (.foreignNamespace j.scope j.config.name))
  else if j.attempts < 1 then .error (.invalidJob .noAttempts)
  else .ok ()

def succeeded (j : Job) : Bool := j.status.outcome = some .succeeded

def isComplete (j : Job) : Bool := j.completedAt.isSome

/-- The job as taken up by a worker. -/
def started (j : Job) (now : Instant) : Job := { j with startedAt := some now }

/-- The job with one more attempt begun. -/
def attempted (j : Job) : Job :=
  { j with status := { j.status with executionCount := j.status.executionCount + 1 } }

/-- The job with one more attempt failed. -/
def withFailure (j : Job) (message : String) : Job :=
  { j with status := { j.status with
      failureCount := j.status.failureCount + 1
      errors := j.status.errors ++ [message] } }

/-- The job as finished. -/
def completed (j : Job) (outcome : JobOutcome) (now : Instant) : Job :=
  { j with status := { j.status with outcome := some outcome }, completedAt := some now }

/-- The record of the job; one that has not completed is taken to complete now. -/
def activity (j : Job) (now : Instant) : Activity where
  jobId := j.id
  scope := j.scope
  kind := j.kind.name
  succeeded := j.succeeded
  executionCount := j.status.executionCount
  failureCount := j.status.failureCount
  errors := j.status.errors
  enqueuedAt := j.enqueuedAt
  startedAt := j.startedAt
  completedAt := j.completedAt.getD now

end Job

end Orchestrator
