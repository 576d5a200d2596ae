import Orchestrator.Engine.Call

/-!
An engine that lives in memory. Every image can be pulled at once, containers move between states
on the usual calls, and some failures can be arranged. Containers are kept, and listed, in the
order of their creation; identifiers are numbered and so never repeat.
-/
namespace Orchestrator.Engine

/-- A container with what it was created from. -/
structure Created where
  spec : ContainerSpec
  container : Container
  deriving DecidableEq

/-- An engine in memory. -/
structure Memory where
  containers : List Created := []
  networks : SortedMap String Network := ∅
  /-- The references pulled so far, oldest first. -/
  pulled : List String := []
  /-- How often each identifier was inspected. -/
  inspections : SortedMap String Nat := ∅
  /-- How many of the next pulls fail. -/
  failingPulls : Nat := 0
  /-- How many of the next creations fail. -/
  failingCreates : Nat := 0
  /-- The state that containers go into when they are started. -/
  startState : ContainerState := .running
  /-- How many containers were created so far. -/
  created : Nat := 0
  /-- How many networks were created so far. -/
  networksCreated : Nat := 0

namespace Memory

instance : Inhabited Memory := ⟨{}⟩

/-- A number behind a letter or word. -/
def numbered (word : String) (n : Nat) : String := word ++ String.ofList (Text.decimal n)

/-- The container with an identifier. -/
def find? (m : Memory) (id : String) : Option Created :=
  m.containers.find? fun c => c.container.id = id

/-- The engine with the container of an identifier changed. -/
def update (m : Memory) (id : String) (f : Container → Container) : Memory :=
  { m with containers := m.containers.map fun c =>
      if c.container.id = id then { c with container := f c.container } else c }

/-- The engine with a container in a state. -/
def setState (m : Memory) (id : String) (state : ContainerState) : Memory :=
  m.update id fun c => { c with state := state }

/-- The mount point of a bind. -/
def mountPoint? (bind : String) : Option String :=
  match bind.toList.dropWhile (· ≠ ':') with
  | [] => none
  | _ :: target => some (String.ofList target)

/-- A new container. -/
def newContainer (spec : ContainerSpec) (id : String) (now : Instant) : Container where
  id := id
  name := spec.name
  deployment := (spec.labels.find? Container.ownerLabel).getD ""
  networkId := none
  imageId := "sha256:" ++ spec.image
  createdAt := some now
  state := .created
  ports := spec.ports.keys.map fun p => String.ofList (Text.decimal p.toNat) ++ "/tcp"
  volumes := spec.binds.filterMap mountPoint?
  command := []
  entrypoint := []
  labels := spec.labels

/-- The error for something that does not exist. -/
def missing (what id : String) : EngineError := .notFound ("no such " ++ what ++ ": " ++ id)

/-! ## The calls -/

/-- Pulls an image. -/
def pull (m : Memory) (reference : String) : Except EngineError Unit × Memory :=
  if m.failingPulls > 0 then
    (.error (.api ("pull access denied for " ++ reference)),
      { m with failingPulls := m.failingPulls - 1 })
  else (.ok (), { m with pulled := m.pulled ++ [reference] })

/-- Creates a container; its name must be free. -/
def create (m : Memory) (now : Instant) (spec : ContainerSpec) :
    Except EngineError String × Memory :=
  if m.failingCreates > 0 then
    (.error (.api ("cannot create " ++ spec.name)),
      { m with failingCreates := m.failingCreates - 1 })
  else if m.containers.any fun c => c.spec.name = spec.name then
    (.error (.api ("conflict: container name " ++ spec.name ++ " already in use")), m)
  else
    let id := numbered "c" (m.created + 1)
    (.ok id,
      { m with
        containers := m.containers ++ [⟨spec, newContainer spec id now⟩]
        created := m.created + 1 })

/-- Starts a container. -/
def start (m : Memory) (id : String) : Except EngineError Unit × Memory :=
  match m.find? id with
  | none => (.error (missing "container" id), m)
  | some _ => (.ok (), m.setState id m.startState)

/-- Stops a container. -/
def stop (m : Memory) (id : String) : Except EngineError Unit × Memory :=
  match m.find? id with
  | none => (.error (missing "container" id), m)
  | some _ => (.ok (), m.setState id .exited)

/-- Removes a container; one that runs must be forced. -/
def remove (m : Memory) (id : String) (force : Bool) : Except EngineError Unit × Memory :=
  match m.find? id with
  | none => (.error (missing "container" id), m)
  | some c =>
    if c.container.isRunning && !force then
      (.error (.api ("cannot remove running container " ++ id)), m)
    else
      (.ok (), { m with containers := m.containers.filter fun c => c.container.id ≠ id })

/-- The containers that carry a label with a value. -/
def labelled (m : Memory) (label value : String) : List Container :=
  (m.containers.map Created.container).filter fun c => c.labels.find? label = some value

/-- Inspects a container, which is counted whether it exists or not. -/
def inspect (m : Memory) (id : String) : Except EngineError Container × Memory :=
  let count := (m.inspections.find? id).getD 0
  (match m.find? id with
    | none => .error (missing "container" id)
    | some c => .ok c.container,
    { m with inspections := m.inspections.insert id (count + 1) })

/-- Creates a network; it takes the place of one with the same name. -/
def createNetwork (m : Memory) (name : String) : Network × Memory :=
  let network : Network := ⟨numbered "net" (m.networksCreated + 1), name⟩
  (network,
    { m with
      networks := m.networks.insert name network
      networksCreated := m.networksCreated + 1 })

/-- Connects a container to a network. -/
def connect (m : Memory) (network container : String) : Except EngineError Unit × Memory :=
  if m.networks.values.any fun n => n.id = network then
    match m.find? container with
    | none => (.error (missing "container" container), m)
    | some _ => (.ok (), m.update container fun c => { c with networkId := some network })
  else (.error (missing "network" network), m)

/-- Serves a call. -/
def serve (now : Instant) (m : Memory) : (call : Call) → call.Outcome × Memory
  | .pull reference => m.pull reference
  | .create spec => m.create now spec
  | .start id => m.start id
  | .stop id _ => m.stop id
  | .remove id force => m.remove id force
  | .list label value => (.ok (m.labelled label value), m)
  | .inspect id => m.inspect id
  | .network name => (.ok (m.networks.find? name), m)
  | .createNetwork name => let (network, m) := m.createNetwork name; (.ok network, m)
  | .connect network container => m.connect network container

end Memory

end Orchestrator.Engine
