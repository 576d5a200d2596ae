import Orchestrator.Job.Basic

/-!
The JSON form of a job. The work of a job is tagged by its kind, and is set aside until the kind is
known.
-/
namespace Orchestrator

open Orchestrator.Json

namespace Work

/-- The JSON form. -/
def toJson : Work → Json
  | .create config current new =>
    Json.record [
      ("kind", Json.text JobKind.create.name),
      ("config", config.toJson),
      ("current_containers", .array (current.map Container.toJson)),
      ("new_containers", .array (new.map Container.toJson))]
  | .delete config current =>
    Json.record [
      ("kind", Json.text JobKind.delete.name),
      ("config", config.toJson),
      ("current_containers", .array (current.map Container.toJson))]

/-- A deployment that was set aside. -/
def asConfig : Json → Decoded Deployment := Deployment.ofJson .buffered

/-- Containers that were set aside. -/
def asContainers : Json → Decoded (List Container) := asList (Container.ofJson .buffered)

/-- Reads the work of a kind. -/
def ofFields (kind : JobKind) (j : Json) : Decoded Work :=
  match kind with
  | .create => do
    let given ← asRecord .buffered
      [required "config" asConfig, required "current_containers" asContainers,
        required "new_containers" asContainers] j
    return .create (← given.get "config" asConfig)
      (← given.get "current_containers" asContainers) (← given.get "new_containers" asContainers)
  | .delete => do
    let given ← asRecord .buffered
      [required "config" asConfig, required "current_containers" asContainers] j
    return .delete (← given.get "config" asConfig)
      (← given.get "current_containers" asContainers)

/-- Is the member the tag? -/
def isTag (member : List Char × Json) : Bool := unescape member.1 = some "kind".toList

/-- Reads the JSON form: an object with exactly one tag among its members, or an array that starts
with the tag. -/
def ofJson (j : Json) : Decoded Work :=
  if !j.isStorable then .error .syntactic
  else if maxDepth ≤ j.depth then .error .syntactic
  else
    match j with
    | .object members =>
      match members.filter isTag with
      | [(_, tag)] => do
        ofFields (← asParsed JobKind.ofName? tag) (.object (members.filter (!isTag ·)))
      | _ => .error .shape
    | .array (tag :: items) => do ofFields (← asParsed JobKind.ofName? tag) (.array items)
    | j => .error (mismatch j)

end Work

namespace JobStatus

/-- The JSON form. -/
def toJson (s : JobStatus) : Json :=
  Json.record [
    ("execution_count", Json.nat s.executionCount.toNat),
    ("failure_count", Json.nat s.failureCount.toNat),
    ("errors", Json.texts s.errors),
    ("outcome", Json.ofOption (fun o => Json.text o.name) s.outcome)]

/-- An outcome. -/
def asOutcome : Json → Decoded JobOutcome := asChoice JobOutcome.ofName? .direct

/-- Reads the JSON form. -/
def ofJson (j : Json) : Decoded JobStatus := do
  let given ← asRecord .direct
    [required "execution_count" asUInt32, required "failure_count" asUInt32,
      required "errors" asTexts, nullable "outcome" asOutcome] j
  return {
    executionCount := ← given.get "execution_count" asUInt32
    failureCount := ← given.get "failure_count" asUInt32
    errors := ← given.get "errors" asTexts
    outcome := ← given.get? "outcome" asOutcome }

end JobStatus

namespace Job

/-- The JSON form. -/
def toJson (j : Job) : Json :=
  Json.record [
    ("id", Json.text j.id.render),
    ("namespace", Json.text j.scope),
    ("args", j.work.toJson),
    ("retry_policy", Json.nat j.attempts.toNat),
    ("status", j.status.toJson),
    ("enqueued_at", Json.text j.enqueuedAt.render),
    ("started_at", Json.ofOption (fun t => Json.text t.render) j.startedAt),
    ("completed_at", Json.ofOption (fun t => Json.text t.render) j.completedAt)]

/-- A short form, with more members: containers by their identifiers, and times only by whether they
are set. -/
def summary (j : Job) (more : List (String × Json)) : Json :=
  Json.record ([
    ("id", Json.text j.id.render),
    ("namespace", Json.text j.scope),
    ("kind", Json.text j.kind.name),
    ("retry_policy", Json.nat j.attempts.toNat),
    ("status", j.status.toJson),
    ("started", .bool j.startedAt.isSome),
    ("completed", .bool j.completedAt.isSome),
    ("succeeded", .bool j.succeeded),
    ("current", Json.texts (j.work.current.map Container.id)),
    ("new", Json.texts (j.work.new.map Container.id))] ++ more)

/-- The fields of the JSON form. -/
def fields : List Field := [
  required "id" Activity.asUuid,
  required "namespace" asText,
  required "args" Work.ofJson,
  required "retry_policy" asUInt32,
  required "status" JobStatus.ofJson,
  required "enqueued_at" Container.asInstant,
  nullable "started_at" Container.asInstant,
  nullable "completed_at" Container.asInstant]

/-- Reads the JSON form. -/
def ofJson (json : Json) : Decoded Job := do
  let given ← asRecord .direct fields json
  return {
    id := ← given.get "id" Activity.asUuid
    scope := ← given.get "namespace" asText
    work := ← given.get "args" Work.ofJson
    attempts := ← given.get "retry_policy" asUInt32
    status := ← given.get "status" JobStatus.ofJson
    enqueuedAt := ← given.get "enqueued_at" Container.asInstant
    startedAt := ← given.get? "started_at" Container.asInstant
    completedAt := ← given.get? "completed_at" Container.asInstant }

end Job

end Orchestrator
