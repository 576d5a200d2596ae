import Orchestrator.Naming
import Orchestrator.SortedMap
import Orchestrator.Text.Blank

/-!
Deployments: the desired state of one application. The name is the key of a deployment in the store
and the owner's mark on every container made for it.
-/
namespace Orchestrator

/-- The desired state of one application. -/
structure Deployment where
  name : String
  image : String
  registry : String
  tag : String
  /-- How many replicas should run. -/
  scale : UInt32
  /-- Host ports by container port. -/
  ports : SortedMap UInt16 UInt16
  /-- Container paths by host path or volume name. -/
  volumes : SortedMap String String
  env : SortedMap String String
  /-- Aliases by secret key. -/
  secrets : SortedMap String String
  /-- The host names that requests are routed by. -/
  aliases : List String
  /-- Are the host names served over TLS only? -/
  secure : Bool
  rateLimit : Bool
  deriving DecidableEq

namespace Deployment

/-- The registry of an image whose deployment names none. -/
def defaultRegistry : String := "docker.io"

/-- The tag of an image whose deployment names none. -/
def defaultTag : String := "latest"

/-- Fills in what is blank: registry, tag, and a scale of at least one. -/
def withDefaults (d : Deployment) : Deployment :=
  { d with
    registry := if Text.isBlankText d.registry then defaultRegistry else d.registry
    tag := if Text.isBlankText d.tag then defaultTag else d.tag
    scale := if d.scale = 0 then 1 else d.scale }

/-- A deployment of which only the name and the image are given. -/
def new (name image : String) : Deployment :=
  withDefaults ⟨name, image, "", "", 1, ∅, ∅, ∅, ∅, [], false, false⟩

instance : Inhabited Deployment := ⟨new "" ""⟩

/-- Refuses a deployment with a bad name or a blank image. -/
def validate (d : Deployment) : Except ValidationError Unit :=
  match validateName d.name with
  | .error e => .error e
  | .ok () => if Text.isBlankText d.image then .error (.missingImage d.name) else .ok ()

/-- The reference an image is pulled by. Images of the default registry carry no registry, and the
slashes at the end of any other are dropped. -/
def imageReference (d : Deployment) : String :=
  let tag := if d.tag = "" then defaultTag else d.tag
  if d.registry = "" ∨ d.registry = defaultRegistry then d.image ++ ":" ++ tag
  else
    String.ofList (Text.dropEndWhile (· = '/') d.registry.toList) ++ "/" ++ d.image ++ ":" ++ tag

end Deployment

end Orchestrator
