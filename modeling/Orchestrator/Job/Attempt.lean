import Orchestrator.Job.Basic
import Orchestrator.Teardown

/-!
One attempt of a job: the workflow of its kind, run once. The followers of the deployment are told
of every step. What is left of a failed attempt stays in the job.
-/
namespace Orchestrator.Job

/-- Tells the followers of a job's deployment that a step begins. -/
def announceStep (j : Job) (step : String) : Program Unit :=
  .request (.announce j.scope ⟨j.id, .step, step⟩)

/-- One attempt of a job. -/
def attempt (f : Fleet) (j : Job) :
    Program (Except (StepError ContainerError) Unit × Job) := do
  match j.work with
  | .create config current new =>
    let (outcome, r) ← (Rollout.workflow f).runObserved j.announceStep ⟨config, current, new⟩
    return (outcome, { j with work := .create r.config r.current r.new })
  | .delete config current =>
    let (outcome, t) ← Teardown.workflow.runObserved j.announceStep ⟨config, current⟩
    return (outcome, { j with work := .delete t.config t.current })

/-- The error a job keeps of a failed attempt. -/
def attemptError (e : StepError ContainerError) : JobError :=
  .workflow (e.map ContainerError.message)

end Orchestrator.Job
