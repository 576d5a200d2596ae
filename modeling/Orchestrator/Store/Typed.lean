import Orchestrator.Deployment.Json
import Orchestrator.Activity
import Orchestrator.Json.Printer
import Orchestrator.Secret
import Orchestrator.Store.Basic

/-!
Deployments, secrets and activity in the store. Each is kept as the bytes of its JSON form:
deployments by name, the secrets of a deployment by key in a collection of their own, activity by
the time of completion.
-/
namespace Orchestrator.Store

open Orchestrator.Json

/-! ## JSON records -/

/-- The bytes of a JSON tree. -/
def encode (j : Json) : ByteArray := j.render.toUTF8

/-- The value that bytes encode. -/
def decode {α : Type} (read : Json → Decoded α) (bytes : ByteArray) : Except StoreError α :=
  match String.fromUTF8? bytes with
  | none => .error .undecodable
  | some text =>
    match Json.decode read text.toList with
    | .ok a => .ok a
    | .error _ => .error .undecodable

/-- The value under a key. -/
def decoded? {α : Type} (s : Store) (read : Json → Decoded α) (collection key : String) :
    Except StoreError (Option α) :=
  match s.get? collection key with
  | none => .ok none
  | some bytes => (decode read bytes).map some

/-! ## Deployments -/

/-- Saves a deployment with its blanks filled in. One that is not valid is refused. -/
def saveDeployment (s : Store) (d : Deployment) : Except StoreError Deployment × Store :=
  let d := d.withDefaults
  match d.validate with
  | .error e => (.error (.invalid e), s)
  | .ok () => (.ok d, s.put deploymentCollection d.name (encode d.toJson))

/-- The deployment with a name, if it is saved. -/
def findDeployment (s : Store) (name : String) : Except StoreError (Option Deployment) :=
  s.decoded? (Deployment.ofJson .direct) deploymentCollection name

/-- The deployment with a name. -/
def getDeployment (s : Store) (name : String) : Except StoreError Deployment := do
  match ← s.findDeployment name with
  | some d => return d
  | none => .error (.unknownDeployment name)

/-- All deployments, in the order of their names. -/
def deployments (s : Store) : Except StoreError (List Deployment) :=
  (s.values deploymentCollection).mapM (decode (Deployment.ofJson .direct))

/-- Removes a deployment, and tells whether it was saved. -/
def deleteDeployment (s : Store) (name : String) : Bool × Store :=
  s.remove deploymentCollection name

/-! ## Secrets -/

/-- Adds a secret to a deployment, or replaces it. -/
def addSecret (s : Store) (deployment key value : String) : Except StoreError Secret × Store :=
  match validateName deployment with
  | .error e => (.error (.invalid e), s)
  | .ok () =>
    match Secret.new key value with
    | .error e => (.error (.invalid e), s)
    | .ok secret =>
      (.ok secret, s.put (secretCollection deployment) secret.key (encode secret.toJson))

/-- The secret of a deployment under a key. -/
def getSecret (s : Store) (deployment key : String) : Except StoreError Secret := do
  match ← s.decoded? Secret.ofJson (secretCollection deployment) key with
  | some secret => return secret
  | none => .error (.unknownSecret key deployment)

/-- The secrets of a deployment, in the order of their keys. -/
def secrets (s : Store) (deployment : String) : Except StoreError (List Secret) :=
  (s.values (secretCollection deployment)).mapM (decode Secret.ofJson)

/-- Removes a secret of a deployment. -/
def deleteSecret (s : Store) (deployment key : String) : Except StoreError Unit × Store :=
  let (existed, s) := s.remove (secretCollection deployment) key
  (if existed then .ok () else .error (.unknownSecret key deployment), s)

/-- Removes all secrets of a deployment, and tells whether it ever had any. -/
def deleteSecrets (s : Store) (deployment : String) : Bool × Store :=
  s.drop (secretCollection deployment)

/-! ## Activity -/

/-- Keeps the record of a finished job. -/
def recordActivity (s : Store) (a : Activity) : Store :=
  s.put activityCollection a.tableKey (encode a.toJson)

/-- The records of the jobs completed from one instant to another, oldest first. -/
def activityBetween (s : Store) (start stop : Instant) : Except StoreError (List Activity) :=
  (s.valuesBetween activityCollection (Activity.lowKey start) (Activity.highKey stop)).mapM
    (decode Activity.ofJson)

/-- The records of one deployment among them. -/
def activityFor (s : Store) (scope : String) (start stop : Instant) :
    Except StoreError (List Activity) :=
  (s.activityBetween start stop).map fun l => l.filter (·.scope = scope)

end Orchestrator.Store
