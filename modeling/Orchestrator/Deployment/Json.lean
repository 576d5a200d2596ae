import Orchestrator.Deployment.Basic
import Orchestrator.Json.Decode

/-!
The JSON form of a deployment. Only the name and the image must be given.
-/
namespace Orchestrator.Deployment

open Orchestrator.Json

/-- The tree of a map from texts to texts. -/
def textMapToJson (m : SortedMap String String) : Json :=
  Json.record (m.entries.map fun e => (e.1, Json.text e.2))

/-- The tree of a map of ports. -/
def portMapToJson (m : SortedMap UInt16 UInt16) : Json :=
  Json.record (m.entries.map fun e =>
    (String.ofList (Text.decimal e.1.toNat), Json.nat e.2.toNat))

/-- The JSON form. -/
def toJson (d : Deployment) : Json :=
  Json.record [
    ("name", Json.text d.name),
    ("image", Json.text d.image),
    ("registry", Json.text d.registry),
    ("tag", Json.text d.tag),
    ("scale", Json.nat d.scale.toNat),
    ("ports", portMapToJson d.ports),
    ("volumes", textMapToJson d.volumes),
    ("env", textMapToJson d.env),
    ("secrets", textMapToJson d.secrets),
    ("aliases", Json.texts d.aliases),
    ("secure", .bool d.secure),
    ("rate_limit", .bool d.rateLimit)]

/-- A map of ports. -/
def asPorts (reading : Reading) : Json → Decoded (SortedMap UInt16 UInt16) :=
  asMap (keyUInt16 reading) asUInt16

/-- The fields of the JSON form. -/
def fields (reading : Reading) : List Field := [
  required "name" asText,
  required "image" asText,
  defaulted "registry" asText,
  defaulted "tag" asText,
  defaulted "scale" asUInt32,
  defaulted "ports" (asPorts reading),
  defaulted "volumes" asTextMap,
  defaulted "env" asTextMap,
  defaulted "secrets" asTextMap,
  defaulted "aliases" asTexts,
  defaulted "secure" asBool,
  defaulted "rate_limit" asBool]

/-- Reads the JSON form. -/
def ofJson (reading : Reading) (j : Json) : Decoded Deployment := do
  let given ← asRecord reading (fields reading) j
  return {
    name := ← given.get "name" asText
    image := ← given.get "image" asText
    registry := ← given.getD "registry" asText ""
    tag := ← given.getD "tag" asText ""
    scale := ← given.getD "scale" asUInt32 1
    ports := ← given.getD "ports" (asPorts reading) ∅
    volumes := ← given.getD "volumes" asTextMap ∅
    env := ← given.getD "env" asTextMap ∅
    secrets := ← given.getD "secrets" asTextMap ∅
    aliases := ← given.getD "aliases" asTexts []
    secure := ← given.getD "secure" asBool false
    rateLimit := ← given.getD "rate_limit" asBool false }

end Orchestrator.Deployment
