import Orchestrator.Rollout

/-!
Tearing a deployment down: all its containers are stopped and then removed. Containers that
disappear meanwhile do not matter.
-/
namespace Orchestrator

/-- What a teardown works on. -/
structure Teardown where
  config : Deployment
  /-- The containers the deployment had when the attempt began. -/
  current : List Container

namespace Teardown

open Fleet

/-- Lists the containers to be removed. -/
def fetchCurrent : StepAction Teardown Unit := do
  let t ← get
  let current ← during (listOwned t.config.name)
  set { t with current := current }

/-- Stops the containers that run. -/
def stopContainers : StepAction Teardown Unit := do
  (← get).current.forM fun c => during (stopIfRunning c)

/-- Removes the containers. -/
def removeContainers : StepAction Teardown Unit := do
  (← get).current.forM fun c => during (removeIfPresent c)

/-- The workflow that tears a deployment down. -/
def workflow : Workflow Program ContainerError Teardown where
  name := "delete"
  steps := [
    step "fetch-current-containers" fetchCurrent,
    step "stop-containers" stopContainers,
    step "remove-containers" removeContainers]

end Teardown

end Orchestrator
