import Orchestrator.Fleet

/-!
Rolling a deployment out: new containers are created and started beside the old ones, and only when
all of them were seen running are the old ones removed. An attempt that ends early leaves its new
containers behind; the next one finds them among the old ones.
-/
namespace Orchestrator

/-- A step's view of what it works on: a failing step leaves what it has done so far. -/
abbrev StepAction (σ α : Type) := ExceptT (Failure ContainerError) (StateT σ Program) α

/-- An action on containers as part of a step. -/
def Fleet.during {σ α : Type} (a : Fleet.Action α) : StepAction σ α :=
  ExceptT.mk fun s => (fun r => (r, s)) <$> a.run

/-- A step of a workflow on containers. -/
def Fleet.step {σ : Type} (name : String) (action : StepAction σ Unit) :
    Step Program ContainerError σ :=
  ⟨name, fun s => action.run s⟩

/-- What a rollout works on. -/
structure Rollout where
  config : Deployment
  /-- The containers the deployment had when the attempt began. -/
  current : List Container
  /-- The containers the attempt made. -/
  new : List Container

namespace Rollout

open Fleet

/-- Lists the containers to be replaced. -/
def fetchCurrent : StepAction Rollout Unit := do
  let r ← get
  let current ← during (listOwned r.config.name)
  set { r with current := current, new := [] }

/-- Pulls the image. -/
def pullImage : StepAction Rollout Unit := do
  during (Fleet.pull (← get).config)

/-- Creates a number of containers, and keeps each as it is created. -/
def createMany (f : Fleet) : Nat → StepAction Rollout Unit
  | 0 => pure ()
  | n + 1 => do
    let container ← during (f.create (← get).config)
    modify fun r => { r with new := r.new ++ [container] }
    createMany f n

/-- Creates the new containers. -/
def createContainers (f : Fleet) : StepAction Rollout Unit := do
  createMany f (← get).config.scale.toNat

/-- Starts the new containers. -/
def startContainers : StepAction Rollout Unit := do
  (← get).new.forM fun c => during (Fleet.call (.start c.id))

/-- Waits for the new containers to run. -/
def checkHealth (f : Fleet) : StepAction Rollout Unit := do
  during (f.healthCheck f.health.retries (← get).new)

/-- Stops and removes the containers that are replaced. -/
def removeOld : StepAction Rollout Unit := do
  (← get).current.forM fun c => do
    during (stopIfRunning c)
    during (removeIfPresent c)

/-- The workflow that rolls a deployment out. -/
def workflow (f : Fleet) : Workflow Program ContainerError Rollout where
  name := "create"
  steps := [
    step "fetch-current-containers" fetchCurrent,
    step "pull-image" pullImage,
    step "create-containers" (createContainers f),
    step "start-containers" startContainers,
    step "health-check" (checkHealth f),
    step "cleanup-old-containers" removeOld]

end Rollout

end Orchestrator
