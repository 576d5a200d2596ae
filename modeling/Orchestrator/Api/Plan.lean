import Orchestrator.Api.Envelope
import Orchestrator.Api.Route
import Orchestrator.Job.Basic
import Orchestrator.Store.Typed

/-!
What answering a request takes. Most requests are answered from the store alone; some put a job
into the queue, ask the engine for containers, or open a socket. The values of secrets are in no
response.
-/
namespace Orchestrator.Api

open Orchestrator.Http

/-- What answering a request takes. -/
inductive Plan where
  /-- Nothing more than the response. -/
  | reply (response : Response)
  /-- That a job of a kind is queued for a deployment. -/
  | queue (kind : JobKind) (config : Deployment)
  /-- That the containers of a deployment that is not saved are listed, and a job queued that
  removes them if there are any. -/
  | tearDownOrphans (name : String)
  /-- That the containers of a deployment are listed. -/
  | containers (name : String)
  /-- That a socket is opened. -/
  | follow (name : String)
  /-- Nothing: the request ends in a panic. -/
  | panic

/-! ## Secrets -/

/-- What a request for a new secret gives. -/
structure SecretRequest where
  key : String
  value : String

/-- Reads the JSON form. -/
def SecretRequest.ofJson (j : Json) : Json.Decoded SecretRequest := do
  let given ← Json.asRecord .direct
    [Json.required "key" Json.asText, Json.required "value" Json.asText] j
  return ⟨← given.get "key" Json.asText, ← given.get "value" Json.asText⟩

/-- A secret as responses show it. -/
def shownSecret (s : Secret) : Json := s.redacted.toJson

/-- A list in a response. -/
def shownList {α : Type} (encode : α → Json) (l : List α) : Json := .array (l.map encode)

/-! ## Activity -/

/-- Which finished jobs a request asks for. -/
structure ActivityQuery where
  start : Option Instant
  stop : Option Instant
  deployment : Option String

/-- The value of a parameter that is given at most once. -/
def parameter? (parameters : List (String × String)) (name : String) :
    Except Rejection (Option String) :=
  match parameters.filter fun p => p.1 = name with
  | [] => .ok none
  | [p] => .ok (some p.2)
  | _ => .error .unreadable

/-- A time in a parameter. -/
def timeParameter? (parameters : List (String × String)) (name : String) :
    Except Rejection (Option Instant) := do
  match ← parameter? parameters name with
  | none => return none
  | some text =>
    match Instant.ofText? text with
    | some t => return some t
    | none => .error .unreadable

/-- Reads the parameters of a query. -/
def ActivityQuery.ofParameters (parameters : List (String × String)) :
    Except Rejection ActivityQuery := do
  return ⟨← timeParameter? parameters "from", ← timeParameter? parameters "to",
    ← parameter? parameters "deployment"⟩

/-- The seconds of the range of time that is asked for when its start is not given. -/
def defaultRange : Int := 86400

/-- Answers a query at a time: up to then, and from a day before the end, unless the query says
otherwise. There must be such a day, even if the start is given. -/
def activity (now : Instant) (q : ActivityQuery) (s : Store) : Plan :=
  let stop := q.stop.getD now
  match stop.addSeconds? (-defaultRange) with
  | none => .panic
  | some dayBefore =>
    let start := q.start.getD dayBefore
    let found :=
      match q.deployment with
      | some scope => s.activityFor scope start stop
      | none => s.activityBetween start stop
    .reply (storeAnswer 200 (shownList Activity.toJson) found)

/-! ## All requests -/

/-- What an action takes, and the store as it leaves it. -/
def perform (now : Instant) (r : Request) (s : Store) : Action → Except Rejection (Plan × Store)
  | .listDeployments =>
    return (.reply (storeAnswer 200 (shownList Deployment.toJson) s.deployments), s)
  | .saveDeployment => do
    let (saved, s) := s.saveDeployment (← r.readBody (Deployment.ofJson .direct))
    return (.reply (storeAnswer 201 Deployment.toJson saved), s)
  | .getDeployment name =>
    return (.reply (storeAnswer 200 Deployment.toJson (s.getDeployment name)), s)
  | .deleteDeployment name =>
    let (existed, s) := s.deleteDeployment name
    return (.reply (if existed then deleted else deploymentNotFound), s)
  | .deploy name =>
    match s.getDeployment name with
    | .ok config => return (.queue .create config, s)
    | .error e => return (.reply (storeFailure e), s)
  | .teardown name =>
    match s.findDeployment name with
    | .ok (some config) => return (.queue .delete config, s)
    | .ok none => return (.tearDownOrphans name, s)
    | .error e => return (.reply (storeFailure e), s)
  | .listContainers name => return (.containers name, s)
  | .listSecrets name =>
    return (.reply (storeAnswer 200 (shownList shownSecret) (s.secrets name)), s)
  | .addSecret name => do
    let given ← r.readBody SecretRequest.ofJson
    let (added, s) := s.addSecret name given.key given.value
    return (.reply (storeAnswer 201 shownSecret added), s)
  | .deleteSecret name key =>
    match s.deleteSecret name key with
    | (.ok (), s) => return (.reply deleted, s)
    | (.error e, s) => return (.reply (storeFailure e), s)
  | .follow name => return (.follow name, s)
  | .listActivity => do
    return (activity now (← ActivityQuery.ofParameters r.target.parameters) s, s)

/-- What answering a request takes, and the store as the request leaves it. -/
def plan (now : Instant) (r : Request) (s : Store) : Plan × Store :=
  match Action.ofRequest r >>= perform now r s with
  | .ok result => result
  | .error rejection => (.reply rejection.response, s)

end Orchestrator.Api
