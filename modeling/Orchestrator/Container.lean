import Orchestrator.Deployment.Json
import Orchestrator.Instant

/-!
Containers, as an engine reports them.
-/
namespace Orchestrator

/-- The life-cycle state of a container. -/
inductive ContainerState where
  | created
  | running
  | paused
  | restarting
  | removing
  | dead
  | oomKilled
  | exited
  deriving DecidableEq, Repr

namespace ContainerState

/-- The name of a state. -/
def name : ContainerState → String
  | .created => "created"
  | .running => "running"
  | .paused => "paused"
  | .restarting => "restarting"
  | .removing => "removing"
  | .dead => "dead"
  | .oomKilled => "oom-killed"
  | .exited => "exited"

/-- Every state. -/
def all : List ContainerState :=
  [.created, .running, .paused, .restarting, .removing, .dead, .oomKilled, .exited]

/-- The state with a name. -/
def ofName? (name : String) : Option ContainerState := all.find? (·.name = name)

/-- The text trimmed and with its ASCII letters in lower case. -/
def normalize (text : String) : String :=
  String.ofList ((Text.trim text.toList).map Char.toLower)

/-- Reads a state leniently: blanks around it and the case of ASCII letters do not matter, and the
dash of `oom-killed` may be missing. The error is the text that names no state. -/
def parse (text : String) : Except String ContainerState :=
  let name := normalize text
  if name = "oomkilled" then .ok .oomKilled
  else
    match ofName? name with
    | some state => .ok state
    | none => .error name

/-- What is said of a text that names no state. -/
def unknownMessage (name : String) : String := "unknown container state: " ++ name

end ContainerState

/-- A container as an engine reports it. -/
structure Container where
  id : String
  name : String
  /-- The owning deployment, by the ownership label. -/
  deployment : String
  networkId : Option String
  imageId : String
  createdAt : Option Instant
  state : ContainerState
  /-- Exposed ports, such as `80/tcp`. -/
  ports : List String
  /-- Mount points inside the container. -/
  volumes : List String
  command : List String
  entrypoint : List String
  labels : SortedMap String String
  deriving DecidableEq

namespace Container

/-- The label that marks a container as owned; its value is the deployment's name. -/
def ownerLabel : String := "hoist.deployment"

def isRunning (c : Container) : Bool := c.state = .running

open Orchestrator.Json

/-- The JSON form. -/
def toJson (c : Container) : Json :=
  Json.record [
    ("id", Json.text c.id),
    ("name", Json.text c.name),
    ("deployment", Json.text c.deployment),
    ("network_id", Json.ofOption Json.text c.networkId),
    ("image_id", Json.text c.imageId),
    ("created_at", Json.ofOption (fun t => Json.text t.render) c.createdAt),
    ("state", Json.text c.state.name),
    ("ports", Json.texts c.ports),
    ("volumes", Json.texts c.volumes),
    ("command", Json.texts c.command),
    ("entrypoint", Json.texts c.entrypoint),
    ("labels", Deployment.textMapToJson c.labels)]

/-- An instant. -/
def asInstant : Json → Decoded Instant := asParsed Instant.ofText?

/-- A state. -/
def asState (reading : Reading) : Json → Decoded ContainerState :=
  asChoice ContainerState.ofName? reading

/-- The fields of the JSON form. -/
def fields (reading : Reading) : List Field := [
  required "id" asText,
  required "name" asText,
  required "deployment" asText,
  nullable "network_id" asText,
  required "image_id" asText,
  nullable "created_at" asInstant,
  required "state" (asState reading),
  required "ports" asTexts,
  required "volumes" asTexts,
  required "command" asTexts,
  required "entrypoint" asTexts,
  required "labels" asTextMap]

/-- Reads the JSON form. -/
def ofJson (reading : Reading) (j : Json) : Decoded Container := do
  let given ← asRecord reading (fields reading) j
  return {
    id := ← given.get "id" asText
    name := ← given.get "name" asText
    deployment := ← given.get "deployment" asText
    networkId := ← given.get? "network_id" asText
    imageId := ← given.get "image_id" asText
    createdAt := ← given.get? "created_at" asInstant
    state := ← given.get "state" (asState reading)
    ports := ← given.get "ports" asTexts
    volumes := ← given.get "volumes" asTexts
    command := ← given.get "command" asTexts
    entrypoint := ← given.get "entrypoint" asTexts
    labels := ← given.get "labels" asTextMap }

end Container

end Orchestrator
