import Orchestrator.Http.Message

/-!
The routes of the API: which path and method ask for what. A name in a path may be empty, except at
the path's end. A route that can be read can also be asked for its head alone.
-/
namespace Orchestrator.Api

open Orchestrator.Http

/-- What stands at a path; names are as the path spells them. -/
inductive Resource where
  | deployments
  | deployment (name : String)
  | deploy (name : String)
  | teardown (name : String)
  | containers (name : String)
  | secrets (name : String)
  | secret (name key : String)
  | events (name : String)
  | activity
  deriving DecidableEq, Repr

/-- What stands behind the name of a deployment. -/
def Resource.ofTail? (name : String) : List String → Option Resource
  | [] => if name = "" then none else some (.deployment name)
  | ["deploy"] => some (.deploy name)
  | ["teardown"] => some (.teardown name)
  | ["containers"] => some (.containers name)
  | ["secrets"] => some (.secrets name)
  | ["secrets", key] => if key = "" then none else some (.secret name key)
  | ["events"] => some (.events name)
  | _ => none

/-- What stands at a path, by its segments. -/
def Resource.ofSegments? : List String → Option Resource
  | ["", "api", "v1", "deployments"] => some .deployments
  | ["", "api", "v1", "activity"] => some .activity
  | "" :: "api" :: "v1" :: "deployments" :: name :: tail => ofTail? name tail
  | _ => none

/-- What a request asks for. -/
inductive Action where
  | listDeployments
  | saveDeployment
  | getDeployment (name : String)
  | deleteDeployment (name : String)
  | deploy (name : String)
  | teardown (name : String)
  | listContainers (name : String)
  | listSecrets (name : String)
  | addSecret (name : String)
  | deleteSecret (name key : String)
  | follow (name : String)
  | listActivity
  deriving DecidableEq, Repr

/-- What a method asks for of what stands at a path. -/
def Resource.action? (resource : Resource) (method : String) : Option Action :=
  let reads := method = "GET" || method = "HEAD"
  match resource with
  | .deployments =>
    if reads then some .listDeployments
    else if method = "POST" then some .saveDeployment
    else none
  | .deployment name =>
    if reads then some (.getDeployment name)
    else if method = "DELETE" then some (.deleteDeployment name)
    else none
  | .deploy name => if method = "POST" then some (.deploy name) else none
  | .teardown name => if method = "POST" then some (.teardown name) else none
  | .containers name => if reads then some (.listContainers name) else none
  | .secrets name =>
    if reads then some (.listSecrets name)
    else if method = "POST" then some (.addSecret name)
    else none
  | .secret name key => if method = "DELETE" then some (.deleteSecret name key) else none
  | .events name => if method = "GET" then some (.follow name) else none
  | .activity => if reads then some .listActivity else none

/-- What a request asks for, with its names as the path spells them. -/
def Action.spelled (r : Request) : Except Rejection Action :=
  match Resource.ofSegments? r.target.segments with
  | none => .error .unknownPath
  | some resource =>
    match resource.action? r.method with
    | none => .error .unknownMethod
    | some action => .ok action

/-- A name of a path, decoded. -/
def decodedName (name : String) : Except Rejection String :=
  match Target.segmentText? name with
  | some name => .ok name
  | none => .error .unreadable

/-- The action with its names decoded. -/
def Action.decoded : Action → Except Rejection Action
  | .getDeployment name => .getDeployment <$> decodedName name
  | .deleteDeployment name => .deleteDeployment <$> decodedName name
  | .deploy name => .deploy <$> decodedName name
  | .teardown name => .teardown <$> decodedName name
  | .listContainers name => .listContainers <$> decodedName name
  | .listSecrets name => .listSecrets <$> decodedName name
  | .addSecret name => .addSecret <$> decodedName name
  | .deleteSecret name key => .deleteSecret <$> decodedName name <*> decodedName key
  | .follow name => .follow <$> decodedName name
  | action => .ok action

/-- What a request asks for. Events are given only to one who asks for a socket. -/
def Action.ofRequest (r : Request) : Except Rejection Action := do
  let action ← Action.spelled r
  match action, r.upgrades with
  | .follow _, false => .error .unreadable
  | _, _ => action.decoded

end Orchestrator.Api
