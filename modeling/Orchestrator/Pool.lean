import Orchestrator.Job.Attempt

/-!
Workers and their pool. A worker takes a job out of the queue, asks for the lock of the job's
deployment, waits for it, and makes attempts of the job until one succeeds or no more are allowed.
What a worker does next is its state; how it takes a step is part of the daemon it works in.
-/
namespace Orchestrator

/-- One attempt of a job, as a program; it leaves the job as the attempt changed it. -/
abbrev AttemptProgram := Program (Except (Failure JobError) Unit × Job)

/-- How an arranged attempt ends. -/
inductive Ending where
  | success
  /-- A step fails for a reason. -/
  | failure (reason : String)
  | refusal (error : JobError)
  | panic (text : String)
  deriving DecidableEq, Repr

/-- An arranged attempt: a pause and then an ending. -/
structure Act where
  pause : Nat
  ending : Ending
  deriving DecidableEq, Repr

/-- What a pool does for an attempt of a job. -/
inductive Executor where
  /-- The workflow of the job. -/
  | deployments
  /-- The next arranged attempt of the deployment; when none is left, attempts succeed. -/
  | scripted (scripts : SortedMap String (List Act))

namespace Executor

/-- The executor with other attempts arranged for a deployment. -/
def arrange (executor : Executor) (scope : String) (acts : List Act) : Executor :=
  match executor with
  | .deployments => .deployments
  | .scripted scripts => .scripted (scripts.insert scope acts)

/-- How an arranged attempt of a job ends. -/
def outcome (job : Job) : Ending → Except (Failure JobError) Unit
  | .success => .ok ()
  | .failure reason => .error (.error (.workflow (.failed job.kind.name "scripted" reason)))
  | .refusal error => .error (.error error)
  | .panic text => .error (.panic (some text))

/-- An arranged attempt of a job. -/
def performAct (job : Job) (act : Act) : AttemptProgram := do
  Program.request (.pause act.pause)
  return (outcome job act.ending, job)

/-- An attempt of a job by its workflow. -/
def performWorkflow (fleet : Fleet) (job : Job) : AttemptProgram := do
  let (result, job) ← job.attempt fleet
  return (result.mapError fun e => .error (Job.attemptError e), job)

/-- The next attempt of a job. -/
def begin (fleet : Fleet) (executor : Executor) (job : Job) : AttemptProgram × Executor :=
  match executor with
  | .deployments => (performWorkflow fleet job, .deployments)
  | .scripted scripts =>
    match scripts.find? job.scope with
    | some (act :: rest) => (performAct job act, .scripted (scripts.insert job.scope rest))
    | _ => (.done (.ok (), job), .scripted scripts)

end Executor

/-- What a worker is about to do. -/
inductive Worker where
  /-- It waits for a job. -/
  | idle
  /-- It has taken a job, and has not asked for the lock of its deployment yet. -/
  | taken (job : Job)
  /-- It waits for the lock of its job's deployment. -/
  | locking (job : Job)
  /-- It makes an attempt, of which a program is left; `attempt` counts from one. -/
  | attempting (job : Job) (attempt : Nat) (rest : AttemptProgram)
  /-- Its attempt pauses up to a time. -/
  | sleeping (job : Job) (attempt : Nat) (wake : Nat) (rest : AttemptProgram)
  /-- It pauses between two attempts up to a time. -/
  | resting (job : Job) (attempt : Nat) (wake : Nat)
  /-- It has ended. -/
  | stopped
  /-- It has ended in a panic of its executor; the job it had stays unfinished. -/
  | crashed (job : Job)

namespace Worker

/-- Has the worker ended? -/
def hasEnded : Worker → Bool
  | .stopped | .crashed _ => true
  | _ => false

/-- The time at which the worker goes on by itself. -/
def wake? : Worker → Option Nat
  | .sleeping _ _ wake _ => some wake
  | .resting _ _ wake => some wake
  | _ => none

end Worker

/-- The workers that share a queue. -/
structure Pool where
  /-- How many workers there are. -/
  concurrency : Nat
  /-- Milliseconds between a failed attempt and the next one. -/
  retryDelay : Nat := 5000
  executor : Executor := .deployments
  /-- Were the workers started? -/
  isStarted : Bool := false
  /-- Were the workers told to end? -/
  isShutdown : Bool := false
  workers : List Worker := []
  /-- Has somebody taken over waiting for the workers' end? -/
  isAwaited : Bool := false

namespace Pool

/-- A pool with at least one worker. -/
def new (concurrency : Nat) : Pool := { concurrency := max concurrency 1 }

/-- Starts the workers; once is enough. -/
def start (p : Pool) : Pool :=
  if p.isStarted then p
  else { p with isStarted := true, workers := List.replicate p.concurrency .idle }

/-- Have all workers ended? -/
def haveEnded (p : Pool) : Bool := p.workers.all Worker.hasEnded

/-- Tells the workers to end after their jobs. Without a worker that hears it, the word is lost.
Only the first who does so waits for their end, if they were started; the answer tells whether. -/
def stop (p : Pool) : Bool × Pool :=
  let awaits := p.isStarted && !p.isAwaited
  (awaits,
    { p with
      isShutdown := p.isShutdown || !p.haveEnded
      isAwaited := p.isAwaited || p.isStarted })

end Pool

end Orchestrator
