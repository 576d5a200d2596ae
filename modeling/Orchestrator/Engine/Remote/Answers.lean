import Orchestrator.Engine.Call
import Orchestrator.Engine.Remote.Report
import Orchestrator.Json.Decode

/-!
What an engine's answers say. Every member of an answer may be missing or `null` unless said
otherwise here; what is not needed is passed over.
-/
namespace Orchestrator.Engine.Remote

open Orchestrator.Json

/-- The members of an answer. -/
def asMembers (fields : List Field) (j : Json) : Decoded Given := asRecord .direct fields j

/-! ## Containers -/

/-- The life-cycle states an engine reports; the empty name reports none. -/
def statusNames : List (String × Option ContainerState) :=
  [("", none), ("created", some .created), ("running", some .running), ("paused", some .paused),
    ("restarting", some .restarting), ("removing", some .removing), ("exited", some .exited),
    ("dead", some .dead)]

/-- A life-cycle state. -/
def asStatus : Json → Decoded (Option ContainerState) :=
  asChoice (fun name => List.lookup name statusNames) .direct

/-- The state of a container. -/
def asContainerState (j : Json) : Decoded ReportedState := do
  let given ← asMembers [nullable "Status" asStatus, nullable "OOMKilled" asBool] j
  return {
    status := (← given.get? "Status" asStatus).join
    oomKilled := ← given.get? "OOMKilled" asBool }

/-- An object without members. -/
def asNothing : Json → Decoded Unit
  | .object [] => .ok ()
  | j => .error (mismatch j)

/-- A map without an order of its own; it is enumerated as it is written. -/
def asEnumeration {ν : Type} (value : Json → Decoded ν) : Json → Decoded (Enumeration ν)
  | .object members => (entries keyText value members).map Enumeration.ofEntries
  | j => .error (mismatch j)

/-- Labels of a container. -/
def asLabels : Json → Decoded (Enumeration String) := asEnumeration asText

/-- The ports that a container exposes. -/
def asPorts : Json → Decoded (Enumeration Unit) := asEnumeration asNothing

/-- What a container was configured with. -/
def asConfiguration (j : Json) : Decoded Configuration := do
  let given ← asMembers
    [nullable "Labels" asLabels, nullable "ExposedPorts" asPorts, nullable "Cmd" asTexts,
      nullable "Entrypoint" asTexts] j
  return {
    labels := ← given.get? "Labels" asLabels
    exposedPorts := ← given.get? "ExposedPorts" asPorts
    command := ← given.get? "Cmd" asTexts
    entrypoint := ← given.get? "Entrypoint" asTexts }

/-- The identifier of a network that a container is attached to. -/
def asAttachment (j : Json) : Decoded (Option String) := do
  let given ← asMembers [nullable "NetworkID" asText] j
  given.get? "NetworkID" asText

/-- The attachments of a container. -/
def asAttachments : Json → Decoded (Enumeration (Option String)) := asEnumeration asAttachment

/-- The networks of a container. -/
def asNetworkSettings (j : Json) : Decoded (Option (Enumeration (Option String))) := do
  let given ← asMembers [nullable "Networks" asAttachments] j
  given.get? "Networks" asAttachments

/-- The place where something is mounted. -/
def asMount (j : Json) : Decoded (Option String) := do
  let given ← asMembers [nullable "Destination" asText] j
  given.get? "Destination" asText

/-- The places where something is mounted. -/
def asMounts : Json → Decoded (List (Option String)) := asList asMount

/-- What an engine reports of a container. -/
def asReport (j : Json) : Decoded Report := do
  let given ← asMembers
    [nullable "Id" asText, nullable "Created" asText, nullable "State" asContainerState,
      nullable "Image" asText, nullable "Name" asText, nullable "Mounts" asMounts,
      nullable "Config" asConfiguration, nullable "NetworkSettings" asNetworkSettings] j
  return {
    id := ← given.get? "Id" asText
    created := ← given.get? "Created" asText
    state := ← given.get? "State" asContainerState
    image := ← given.get? "Image" asText
    name := ← given.get? "Name" asText
    mounts := ← given.get? "Mounts" asMounts
    config := ← given.get? "Config" asConfiguration
    networks := (← given.get? "NetworkSettings" asNetworkSettings).join }

/-- A container. -/
def asContainer (j : Json) : Decoded Container := (asReport j).map Report.container

/-- The identifier in an entry of a listing. -/
def asSummary (j : Json) : Decoded (Option String) := do
  let given ← asMembers [nullable "Id" asText] j
  given.get? "Id" asText

/-- The identifiers in a listing. -/
def asSummaries (j : Json) : Decoded (List String) := do
  return (← asList asSummary j).filterMap id

/-- A list that may be `null`. -/
def asWarnings (j : Json) : Decoded (List String) := do return (← asOption asTexts j).getD []

/-- The identifier of a container that was created; it and its warnings must be there. -/
def asCreatedId (j : Json) : Decoded String := do
  let given ← asMembers [required "Id" asText, required "Warnings" asWarnings] j
  given.get "Id" asText

/-! ## Networks -/

/-- A network, if it has an identifier; one without a name has the name it was asked for by. -/
def asNetwork (name : String) (j : Json) : Decoded (Option Network) := do
  let given ← asMembers [nullable "Name" asText, nullable "Id" asText] j
  let given' ← given.get? "Name" asText
  return (← given.get? "Id" asText).map fun id => ⟨id, given'.getD name⟩

/-- That a network was created. -/
def asCreatedNetwork (j : Json) : Decoded Unit := do
  let _ ← asMembers [required "Id" asText, required "Warning" asText] j
  return ()

/-! ## Progress and errors -/

/-- The error in a report of progress. -/
def asProgressError (j : Json) : Decoded (Option String) := do
  let given ← asMembers [nullable "id" asText, nullable "error" asText, nullable "status" asText] j
  given.get? "error" asText

/-- The message of an error. -/
def asErrorMessage (j : Json) : Decoded String := do
  let given ← asMembers [required "message" asText] j
  given.get "message" asText

end Orchestrator.Engine.Remote
