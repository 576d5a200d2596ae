import Orchestrator.Container
import Orchestrator.Deployment.Json
import Orchestrator.Failure

/-!
The boundary to a container engine: the calls the orchestrator makes, the value each one answers
with, and the errors an engine reports.
-/
namespace Orchestrator.Engine

/-- What is needed to create a container. -/
structure ContainerSpec where
  name : String
  /-- The reference of the image. -/
  image : String
  /-- Entries of the form `NAME=value`. -/
  env : List String
  labels : SortedMap String String
  /-- Host ports by container port. -/
  ports : SortedMap UInt16 UInt16
  /-- Entries of the form `source:target`. -/
  binds : List String
  deriving DecidableEq

/-- The JSON form. -/
def ContainerSpec.toJson (s : ContainerSpec) : Json :=
  Json.record [
    ("name", Json.text s.name),
    ("image", Json.text s.image),
    ("env", Json.texts s.env),
    ("labels", Deployment.textMapToJson s.labels),
    ("ports", Deployment.portMapToJson s.ports),
    ("binds", Json.texts s.binds)]

/-- A network of an engine. -/
structure Network where
  id : String
  name : String
  deriving DecidableEq, Repr

/-- The JSON form. -/
def Network.toJson (n : Network) : Json :=
  Json.record [("id", Json.text n.id), ("name", Json.text n.name)]

/-- An error that an engine reports. -/
inductive EngineError where
  /-- The engine refuses or fails the call. -/
  | api (text : String)
  /-- The call is about something that does not exist. -/
  | notFound (text : String)
  /-- The engine's answer cannot be understood. -/
  | unreadable
  deriving DecidableEq, Repr

def EngineError.message : EngineError → String
  | .api text => "docker error: " ++ text
  | .notFound text => "not found: " ++ text
  | .unreadable => "docker error: the answer cannot be understood"

/-- Is the error that something does not exist? -/
def EngineError.isNotFound : EngineError → Bool
  | .notFound _ => true
  | _ => false

/-- The kinds of call. -/
inductive CallKind where
  | pull
  | create
  | start
  | stop
  | remove
  | list
  | inspect
  | network
  | createNetwork
  | connect
  deriving DecidableEq, Repr

/-- The kind of call with a name. -/
def CallKind.ofName? (name : String) : Option CallKind :=
  List.lookup name [("pull", .pull), ("create", .create), ("start", .start), ("stop", .stop),
    ("remove", .remove), ("list", .list), ("inspect", .inspect), ("network", .network),
    ("create_network", .createNetwork), ("connect", .connect)]

/-- A call to an engine. -/
inductive Call where
  | pull (reference : String)
  /-- Creates a container without starting it. -/
  | create (spec : ContainerSpec)
  | start (id : String)
  /-- Stops a container; after `grace` milliseconds it is killed. -/
  | stop (id : String) (grace : Nat)
  | remove (id : String) (force : Bool)
  /-- All containers, in any state, that carry a label with a value. -/
  | list (label value : String)
  | inspect (id : String)
  | network (name : String)
  | createNetwork (name : String)
  | connect (network container : String)
  deriving DecidableEq

namespace Call

/-- The kind of a call. -/
def kind : Call → CallKind
  | .pull _ => .pull
  | .create _ => .create
  | .start _ => .start
  | .stop .. => .stop
  | .remove .. => .remove
  | .list .. => .list
  | .inspect _ => .inspect
  | .network _ => .network
  | .createNetwork _ => .createNetwork
  | .connect .. => .connect

/-- What a call answers with when it succeeds. -/
abbrev Value : Call → Type
  | .create _ => String
  | .list .. => List Container
  | .inspect _ => Container
  | .network _ => Option Network
  | .createNetwork _ => Network
  | _ => Unit

/-- The outcome of a call that does not panic. -/
abbrev Outcome (call : Call) : Type := Except EngineError call.Value

/-- The outcome of a call. -/
abbrev Reply (call : Call) : Type := Except (Failure EngineError) call.Value

end Call

end Orchestrator.Engine
