import Orchestrator.Http.Message
import Orchestrator.Job.Error
import Orchestrator.Store.Basic
import Orchestrator.Uuid

/-!
The form of the API's responses: an object that tells whether the request succeeded, with data if it
did and the text of an error if it did not.
-/
namespace Orchestrator.Api

open Orchestrator.Http

/-- A response with data. -/
def success (status : Nat) (data : Json) : Response :=
  ⟨status, some (Json.record [("success", .bool true), ("data", data)])⟩

/-- A response with an error. -/
def failure (status : Nat) (message : String) : Response :=
  ⟨status, some (Json.record [("success", .bool false), ("error", Json.text message)])⟩

/-- The response to an error of the store. -/
def storeFailure (e : StoreError) : Response :=
  match e with
  | .unknownDeployment _ | .unknownSecret .. => failure 404 e.message
  | .invalid _ => failure 400 e.message
  | .undecodable => failure 500 e.message

/-- The response to a job that was refused. -/
def jobFailure (e : JobError) : Response :=
  match e with
  | .invalid _ => failure 400 e.message
  | .queueFull | .queueClosed => failure 503 e.message
  | .workflow _ => failure 500 e.message

/-- The response to what became of a job. -/
def jobAnswer : Except JobError Uuid → Response
  | .ok id => success 202 (Json.record [("job_id", Json.text id.render)])
  | .error e => jobFailure e

/-- The response to a deployment that nothing is known of. -/
def deploymentNotFound : Response := failure 404 "deployment not found"

/-- The response to something removed. -/
def deleted : Response := success 200 (Json.text "deleted")

/-- The response that an outcome of the store gives. -/
def storeAnswer {α : Type} (status : Nat) (encode : α → Json) : Except StoreError α → Response
  | .ok a => success status (encode a)
  | .error e => storeFailure e

end Orchestrator.Api
