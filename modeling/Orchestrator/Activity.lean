import Orchestrator.Container
import Orchestrator.Uuid

/-!
Records of finished jobs. A record is kept under the time its job completed, written with nine
digits after the point so that later times have greater keys, followed by the job's identifier.
-/
namespace Orchestrator

/-- What is kept of a finished job. -/
structure Activity where
  jobId : Uuid
  /-- The deployment the job was for. -/
  scope : String
  kind : String
  succeeded : Bool
  executionCount : UInt32
  failureCount : UInt32
  /-- One entry for each failed attempt, oldest first. -/
  errors : List String
  enqueuedAt : Instant
  startedAt : Option Instant
  completedAt : Instant
  deriving DecidableEq

namespace Activity

/-- The key of a record in the activity collection. -/
def tableKey (a : Activity) : String := a.completedAt.renderNanos ++ "#" ++ a.jobId.render

/-- The least key of the records that complete at an instant or later. -/
def lowKey (t : Instant) : String := t.renderNanos

/-- A key above those of the records that complete at an instant. -/
def highKey (t : Instant) : String := t.renderNanos ++ "~"

open Orchestrator.Json

/-- The JSON form. -/
def toJson (a : Activity) : Json :=
  Json.record [
    ("job_id", Json.text a.jobId.render),
    ("namespace", Json.text a.scope),
    ("kind", Json.text a.kind),
    ("succeeded", .bool a.succeeded),
    ("execution_count", Json.nat a.executionCount.toNat),
    ("failure_count", Json.nat a.failureCount.toNat),
    ("errors", Json.texts a.errors),
    ("enqueued_at", Json.text a.enqueuedAt.render),
    ("started_at", Json.ofOption (fun t => Json.text t.render) a.startedAt),
    ("completed_at", Json.text a.completedAt.render)]

/-- A universally unique identifier. -/
def asUuid : Json → Decoded Uuid := asParsed Uuid.ofText?

/-- The fields of the JSON form. -/
def fields : List Field := [
  required "job_id" asUuid,
  required "namespace" asText,
  required "kind" asText,
  required "succeeded" asBool,
  required "execution_count" asUInt32,
  required "failure_count" asUInt32,
  required "errors" asTexts,
  required "enqueued_at" Container.asInstant,
  nullable "started_at" Container.asInstant,
  required "completed_at" Container.asInstant]

/-- Reads the JSON form. -/
def ofJson (j : Json) : Decoded Activity := do
  let given ← asRecord .direct fields j
  return {
    jobId := ← given.get "job_id" asUuid
    scope := ← given.get "namespace" asText
    kind := ← given.get "kind" asText
    succeeded := ← given.get "succeeded" asBool
    executionCount := ← given.get "execution_count" asUInt32
    failureCount := ← given.get "failure_count" asUInt32
    errors := ← given.get "errors" asTexts
    enqueuedAt := ← given.get "enqueued_at" Container.asInstant
    startedAt := ← given.get? "started_at" Container.asInstant
    completedAt := ← given.get "completed_at" Container.asInstant }

end Activity

end Orchestrator
