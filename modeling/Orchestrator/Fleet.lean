import Orchestrator.Labels
import Orchestrator.Program
import Orchestrator.Settings

/-!
The containers of deployments: how they are described to an engine, created, watched and ended.
Every container carries its deployment's labels, joins the orchestrator's network, and has the
deployment's secrets in its environment.
-/
namespace Orchestrator

open Engine

/-- How long new containers may take to run. -/
structure HealthPolicy where
  /-- How often each container is looked at before it is given up. -/
  retries : UInt32 := 5
  /-- Milliseconds of pause after the first look; the pause grows by as much after each. -/
  backoffBase : UInt64 := 10000
  deriving DecidableEq, Repr

/-- Why an operation on containers fails. -/
inductive ContainerError where
  | engine (error : EngineError)
  /-- The container was not running when it was last looked at. -/
  | unhealthy (id : String) (state : ContainerState)
  | store (error : StoreError)
  deriving DecidableEq, Repr

namespace ContainerError

def message : ContainerError → String
  | .engine error => error.message
  | .unhealthy id state =>
    "container " ++ id ++ " is unhealthy (last state: " ++ state.name ++ ")"
  | .store error => "state store error: " ++ error.message

/-- Is the error that the engine does not know what a call is about? -/
def isNotFound : ContainerError → Bool
  | .engine error => error.isNotFound
  | _ => false

end ContainerError

/-- Where and how the containers of deployments are kept. -/
structure Fleet where
  /-- The name of the network that containers join. -/
  network : String := "hoist"
  health : HealthPolicy := {}
  deriving DecidableEq, Repr

namespace Fleet

/-- A task on containers. -/
abbrev Action (α : Type) := Task ContainerError α

/-- A call to the engine. -/
def call (c : Call) : Action c.Value := (Task.call c).mapError .engine

/-- Milliseconds before a container that is being stopped is killed. -/
def stopGrace : Nat := 60000

/-! ## The environment of a container -/

/-- A secret that was found, with the alias the deployment gives it. -/
structure Resolved where
  aliasText : String
  secret : Secret
  deriving DecidableEq

/-- Finds the secrets of a list of keys and aliases; those that do not exist are passed over. -/
def resolve (deployment : String) : List (String × String) → Action (List Resolved)
  | [] => pure []
  | (key, aliasText) :: rest => do
    match ← Task.ask (.secret deployment key) with
    | .ok secret => return ⟨aliasText, secret⟩ :: (← resolve deployment rest)
    | .error (.unknownSecret ..) => resolve deployment rest
    | .error e => Task.fail (.store e)

/-- The value of a variable: that of the first secret whose alias it equals, or itself. -/
def substituted (resolved : List Resolved) (value : String) : String :=
  match resolved.find? (·.aliasText = value) with
  | some r => r.secret.value
  | none => value

/-- The entries of an environment: the variables in order, then one for each secret. -/
def environment (env : SortedMap String String) (resolved : List Resolved) : List String :=
  (env.entries.map fun e => e.1 ++ "=" ++ substituted resolved e.2)
    ++ resolved.map fun r => r.secret.envName ++ "=" ++ r.secret.value

/-! ## Creating containers -/

/-- What a container of a deployment is created from. -/
def specFor (f : Fleet) (d : Deployment) (name : String) (env : List String) : ContainerSpec where
  name := name
  image := d.imageReference
  env := env
  labels := d.containerLabels f.network
  ports := d.ports
  binds := d.volumes.entries.map fun v => v.1 ++ ":" ++ v.2

/-- The environment of a deployment's containers. -/
def resolveEnv (d : Deployment) : Action (List String) := do
  return environment d.env (← resolve d.name d.secrets.entries)

/-- What a container of a deployment is created from, under a new name. -/
def spec (f : Fleet) (d : Deployment) : Action ContainerSpec := do
  let env ← resolveEnv d
  let suffix ← Task.ask .suffix
  return f.specFor d (d.name ++ "-" ++ suffix) env

/-- Finds the network that containers join, or creates it. -/
def ensureNetwork (f : Fleet) : Action Network := do
  match ← call (.network f.network) with
  | some network => return network
  | none => call (.createNetwork f.network)

/-- Creates a container of a deployment, without starting it. -/
def create (f : Fleet) (d : Deployment) : Action Container := do
  let network ← f.ensureNetwork
  let spec ← f.spec d
  let id ← call (.create spec)
  call (.connect network.id id)
  call (.inspect id)

/-- Pulls the image of a deployment. -/
def pull (d : Deployment) : Action Unit := call (.pull d.imageReference)

/-- Stops a container. -/
def stop (id : String) : Action Unit := call (.stop id stopGrace)

/-- All containers of a deployment. -/
def listOwned (deployment : String) : Action (List Container) :=
  call (.list Container.ownerLabel deployment)

/-! ## Watching and ending containers -/

/-- The longest time there is, in milliseconds. -/
def maxPause : Nat := 18446744073709551615999

/-- Looks at a container until it runs; `left` looks remain after the next one. -/
def awaitRunning (base : Nat) (id : String) (attempt : Nat) (left : Nat) : Action Unit := do
  let container ← call (.inspect id)
  if container.state = .running then return ()
  else
    match left with
    | 0 => Task.fail (.unhealthy id container.state)
    | left + 1 =>
      let pause := base * attempt
      if pause > maxPause then Task.panic "overflow when multiplying duration by scalar"
      else do
        Task.ask (.pause pause)
        awaitRunning base id (attempt + 1) left

/-- Looks at containers in turn until each of them runs; each is looked at least once and at most
`retries` times. -/
def healthCheck (f : Fleet) (retries : UInt32) : List Container → Action Unit
  | [] => pure ()
  | c :: rest => do
    awaitRunning f.health.backoffBase.toNat c.id 1 (retries.toNat - 1)
    f.healthCheck retries rest

/-- The action, where it does not matter whether the container still exists. -/
def ifPresent (a : Action Unit) : Action Unit :=
  ExceptT.mk do
    match ← a.run with
    | .error (.error e) => if e.isNotFound then return .ok () else return .error (.error e)
    | other => return other

/-- Stops a container that was listed as running. -/
def stopIfRunning (c : Container) : Action Unit :=
  if c.isRunning then ifPresent (stop c.id) else pure ()

/-- Removes a container in any state. -/
def removeIfPresent (c : Container) : Action Unit := ifPresent (call (.remove c.id true))

end Fleet

end Orchestrator
