import Orchestrator.Engine.Remote.Address
import Orchestrator.Engine.Remote.Answers
import Orchestrator.Json.Printer

/-!
An engine that is reached by HTTP. A call is one or more exchanges of a request for a response; any
status below 400 is a success, 404 says that something does not exist, and every other status is
the engine's refusal.
-/
namespace Orchestrator.Engine.Remote

/-- A request to an engine. -/
structure HttpRequest where
  method : String
  path : String
  query : List (String × String)
  body : Option Json

/-- A response of an engine. -/
structure HttpResponse where
  status : Nat
  body : String
  deriving DecidableEq, Repr

/-- A connection on which the responses are known beforehand. -/
structure Connection where
  /-- The responses to come, in order. -/
  responses : List HttpResponse
  /-- The response when none of them is left. -/
  otherwise : HttpResponse
  /-- The requests made so far, oldest first. -/
  requests : List HttpRequest := []

/-- Exchanges on a connection. -/
abbrev Exchange (α : Type) := ExceptT EngineError (StateM Connection) α

/-- The version of the engine's interface. -/
def version : String := "/v1.47"

/-- The error of a response that is no success. -/
def refusal (response : HttpResponse) : EngineError :=
  let text := match Json.decode asErrorMessage response.body.toList with
    | .ok message => message
    | .error _ => response.body
  if response.status = 404 then .notFound text
  else
    .api ("Docker responded with status code "
      ++ String.ofList (Text.decimal response.status) ++ ": " ++ text)

/-- Makes a request. A query given here takes the place of one that is part of the path. -/
def exchange (method path : String) (query : Option (List (String × String)))
    (body : Option Json) : Exchange String := do
  let address := Address.ofPath (version ++ path)
  let request : HttpRequest := ⟨method, address.path, query.getD address.query, body⟩
  let connection ← get
  let (response, responses) := match connection.responses with
    | [] => (connection.otherwise, [])
    | response :: rest => (response, rest)
  set { connection with
    responses := responses
    requests := connection.requests ++ [request] }
  if response.status < 400 then return response.body else throw (refusal response)

/-- The value an answer is read as. -/
def readAnswer {α : Type} (read : Json → Json.Decoded α) (body : String) : Exchange α :=
  match Json.decode read body.toList with
  | .ok a => return a
  | .error _ => throw .unreadable

/-- The text of a truth value. -/
def flag (b : Bool) : String := if b then "true" else "false"

/-! ## The calls -/

/-- Reads the reports of a pull, one a line, up to the first error. -/
def followProgress : List String → Exchange Unit
  | [] => return ()
  | line :: rest => do
    match ← readAnswer asProgressError line with
    | some _ => throw .unreadable
    | none => followProgress rest

/-- Pulls an image and waits until it is there. -/
def pull (reference : String) : Exchange Unit := do
  let body ← exchange "POST" "/images/create" (some [("fromImage", reference)]) none
  followProgress ((body.splitOn "\n").filter (· ≠ ""))

/-- The name of a port that is exposed. -/
def portName (port : UInt16) : String := String.ofList (Text.decimal port.toNat) ++ "/tcp"

/-- What a container is created from, as the engine reads it. -/
def specToJson (spec : ContainerSpec) : Json :=
  let binding := fun (port : UInt16) => Json.array [Json.record
    [("HostPort", Json.text (String.ofList (Text.decimal port.toNat)))]]
  let binds := if spec.binds.isEmpty then [] else [("Binds", Json.texts spec.binds)]
  Json.record [
    ("Env", Json.texts spec.env),
    ("ExposedPorts", Json.record (spec.ports.keys.map fun p => (portName p, Json.record []))),
    ("Image", Json.text spec.image),
    ("Labels", Deployment.textMapToJson spec.labels),
    ("HostConfig", Json.record (binds ++
      [("PortBindings", Json.record (spec.ports.entries.map fun e =>
        (portName e.1, binding e.2)))]))]

/-- Creates a container. -/
def create (spec : ContainerSpec) : Exchange String := do
  let body ← exchange "POST" "/containers/create" (some [("name", spec.name)])
    (some (specToJson spec))
  readAnswer asCreatedId body

/-- Starts a container. -/
def start (id : String) : Exchange Unit := do
  let _ ← exchange "POST" ("/containers/" ++ id ++ "/start") none none
  return ()

/-- Stops a container; the grace is given in whole seconds. -/
def stop (id : String) (grace : Nat) : Exchange Unit := do
  let seconds := String.ofList (Text.decimal (grace / 1000))
  let _ ← exchange "POST" ("/containers/" ++ id ++ "/stop") (some [("t", seconds)]) none
  return ()

/-- Removes a container with its anonymous volumes. -/
def remove (id : String) (force : Bool) : Exchange Unit := do
  let _ ← exchange "DELETE" ("/containers/" ++ id)
    (some [("v", flag true), ("force", flag force), ("link", flag false)]) none
  return ()

/-- Inspects a container. -/
def inspect (id : String) : Exchange Container := do
  let body ← exchange "GET" ("/containers/" ++ id ++ "/json") none none
  readAnswer asContainer body

/-- Inspects containers in turn; those that disappeared meanwhile are passed over. -/
def inspectAll : List String → Exchange (List Container)
  | [] => return []
  | id :: rest => do
    let found ← tryCatch (some <$> inspect id)
      (fun e => if e.isNotFound then return none else throw e)
    let others ← inspectAll rest
    return found.toList ++ others

/-- All containers that carry a label with a value. -/
def list (label value : String) : Exchange (List Container) := do
  let filters := Json.record [("label", Json.texts [label ++ "=" ++ value])]
  let body ← exchange "GET" "/containers/json"
    (some [("all", flag true), ("size", flag false), ("filters", filters.render)]) none
  inspectAll (← readAnswer asSummaries body)

/-- The network with a name, if it exists. -/
def network (name : String) : Exchange (Option Network) :=
  tryCatch
    (do
      let body ← exchange "GET" ("/networks/" ++ name) none none
      readAnswer (asNetwork name) body)
    (fun e => if e.isNotFound then return none else throw e)

/-- What a network is created from, as the engine reads it. -/
def networkToJson (name : String) : Json :=
  Json.record [
    ("Name", Json.text name),
    ("CheckDuplicate", .bool false),
    ("Driver", Json.text "bridge"),
    ("Internal", .bool false),
    ("Attachable", .bool false),
    ("Ingress", .bool false),
    ("IPAM", Json.record []),
    ("EnableIPv6", .bool false),
    ("Options", Json.record []),
    ("Labels", Json.record [])]

/-- Creates a network, and looks it up. -/
def createNetwork (name : String) : Exchange Network := do
  let body ← exchange "POST" "/networks/create" none (some (networkToJson name))
  readAnswer asCreatedNetwork body
  match ← network name with
  | some network => return network
  | none => throw (.notFound ("network " ++ name))

/-- Connects a container to a network. -/
def connect (network container : String) : Exchange Unit := do
  let _ ← exchange "POST" ("/networks/" ++ network ++ "/connect") none
    (some (Json.record [("Container", Json.text container), ("EndpointConfig", Json.record [])]))
  return ()

/-- The exchanges of a call. -/
def perform : (call : Call) → Exchange call.Value
  | .pull reference => pull reference
  | .create spec => create spec
  | .start id => start id
  | .stop id grace => stop id grace
  | .remove id force => remove id force
  | .list label value => list label value
  | .inspect id => inspect id
  | .network name => network name
  | .createNetwork name => createNetwork name
  | .connect network container => connect network container

/-- Serves a call over a connection. -/
def serve (connection : Connection) (call : Call) : call.Outcome × Connection :=
  (perform call).run connection

end Orchestrator.Engine.Remote
