import Orchestrator.Proofs.Store.Records
import Orchestrator.Proofs.Store.Secrets

/-!
# Stores that differ in values of secrets

Stores are alike if they hold the same deployments and the same activity, and under the same keys secrets
that are the same once their values are hidden. What the daemon does to stores keeps them alike, also when
secrets are added with different values, and what it finds in them is the same, but for values of secrets.
-/
namespace Orchestrator

namespace Store

/-- The secret of a record, as it may be shown. -/
def shown (bytes : ByteArray) : Except StoreError Secret :=
  (decode Secret.ofJson bytes).map Secret.redacted

/-- The secrets of a collection, as they may be shown. -/
def shownRecords (r : Records) : SortedMap String (Except StoreError Secret) := r.map fun _ => shown

/-- The stores differ in values of secrets only. -/
structure Alike (s s' : Store) : Prop where
  deployments : s.records deploymentCollection = s'.records deploymentCollection
  activity : s.records activityCollection = s'.records activityCollection
  secrets (deployment : String) : shownRecords (s.records (secretCollection deployment))
    = shownRecords (s'.records (secretCollection deployment))

variable {s s' : Store}

theorem Alike.refl (s : Store) : s.Alike s := ⟨rfl, rfl, fun _ => rfl⟩

/-! ## Writing -/

/-- A collection is written to alike. -/
theorem Alike.insert (h : s.Alike s') {c : String} {r r' : Records}
    (hsame : c = deploymentCollection ∨ c = activityCollection → r = r')
    (hshown : shownRecords r = shownRecords r') :
    Alike ⟨s.collections.insert c r⟩ ⟨s'.collections.insert c r'⟩ := by
  refine ⟨?_, ?_, fun deployment => ?_⟩ <;> rw [records_insert, records_insert]
  · split
    · rename_i heq
      exact hsame (.inl heq.symm)
    · exact h.deployments
  · split
    · rename_i heq
      exact hsame (.inr heq.symm)
    · exact h.activity
  · split
    · exact hshown
    · exact h.secrets deployment

theorem Alike.insertSecrets (h : s.Alike s') (deployment : String) {r r' : Records}
    (hshown : shownRecords r = shownRecords r') :
    Alike ⟨s.collections.insert (secretCollection deployment) r⟩
      ⟨s'.collections.insert (secretCollection deployment) r'⟩ := by
  refine h.insert (fun hc => ?_) hshown
  rcases hc with hc | hc
  · exact absurd hc (secretCollection_ne_deployments deployment)
  · exact absurd hc (secretCollection_ne_activity deployment)

theorem Alike.recordActivity (h : s.Alike s') (a : Activity) :
    (s.recordActivity a).Alike (s'.recordActivity a) := by
  unfold Store.recordActivity put
  rw [h.activity]
  exact h.insert (fun _ => rfl) rfl

theorem Alike.saveDeployment (h : s.Alike s') (d : Deployment) :
    (s.saveDeployment d).1 = (s'.saveDeployment d).1 ∧
      (s.saveDeployment d).2.Alike (s'.saveDeployment d).2 := by
  unfold Store.saveDeployment put
  rw [h.deployments]
  dsimp only
  split
  · exact ⟨rfl, h⟩
  · exact ⟨rfl, h.insert (fun _ => rfl) rfl⟩

theorem Alike.deleteDeployment (h : s.Alike s') (name : String) :
    (s.deleteDeployment name).1 = (s'.deleteDeployment name).1 ∧
      (s.deleteDeployment name).2.Alike (s'.deleteDeployment name).2 := by
  unfold Store.deleteDeployment remove
  rw [h.deployments]
  exact ⟨rfl, h.insert (fun _ => rfl) rfl⟩

theorem shown_encode (secret : Secret) : shown (encode secret.toJson) = .ok secret.redacted := by
  rw [shown, decode_secret]
  rfl

/-- Whatever values secrets are added with, that is answered alike and stores stay alike. -/
theorem Alike.addSecret (h : s.Alike s') (deployment key value value' : String) :
    (s.addSecret deployment key value).1.map Secret.redacted
        = (s'.addSecret deployment key value').1.map Secret.redacted ∧
      (s.addSecret deployment key value).2.Alike (s'.addSecret deployment key value').2 := by
  unfold Store.addSecret Secret.new
  cases validateName deployment with
  | error e => exact ⟨rfl, h⟩
  | ok u =>
    cases validateKey key with
    | error e => exact ⟨rfl, h⟩
    | ok u =>
      refine ⟨rfl, h.insertSecrets deployment ?_⟩
      -- what is written is the same once the value is hidden
      rw [shownRecords, shownRecords, ← SortedMap.insert_map, ← SortedMap.insert_map, shown_encode,
        shown_encode]
      exact congrArg (SortedMap.insert · key _) (h.secrets deployment)

theorem Alike.contains_secret (h : s.Alike s') (deployment key : String) :
    (s.records (secretCollection deployment)).contains key
      = (s'.records (secretCollection deployment)).contains key := by
  rw [← SortedMap.contains_map shown, ← SortedMap.contains_map shown]
  exact congrArg (SortedMap.contains · key) (h.secrets deployment)

theorem Alike.deleteSecret (h : s.Alike s') (deployment key : String) :
    (s.deleteSecret deployment key).1 = (s'.deleteSecret deployment key).1 ∧
      (s.deleteSecret deployment key).2.Alike (s'.deleteSecret deployment key).2 := by
  unfold Store.deleteSecret remove
  rw [h.contains_secret]
  refine ⟨rfl, h.insertSecrets deployment ?_⟩
  rw [shownRecords, shownRecords, ← SortedMap.erase_map, ← SortedMap.erase_map]
  exact congrArg (SortedMap.erase · key) (h.secrets deployment)

/-! ## Reading -/

theorem Alike.findDeployment (h : s.Alike s') (name : String) :
    s.findDeployment name = s'.findDeployment name := by
  unfold Store.findDeployment decoded? get?
  rw [h.deployments]

theorem Alike.getDeployment (h : s.Alike s') (name : String) :
    s.getDeployment name = s'.getDeployment name := by
  unfold Store.getDeployment
  rw [h.findDeployment]

theorem Alike.listed (h : s.Alike s') : Store.deployments s = Store.deployments s' := by
  unfold Store.deployments values
  rw [h.deployments]

theorem Alike.activityBetween (h : s.Alike s') (start stop : Instant) :
    s.activityBetween start stop = s'.activityBetween start stop := by
  unfold Store.activityBetween valuesBetween
  rw [h.activity]

/-- A secret is found or not, whatever its value is. -/
theorem Alike.getSecret (h : s.Alike s') (deployment key : String) :
    (s.getSecret deployment key).map Secret.redacted = (s'.getSecret deployment key).map Secret.redacted := by
  have viewed (s : Store) : (s.getSecret deployment key).map Secret.redacted
      = ((shownRecords (s.records (secretCollection deployment))).find? key).getD
        (.error (.unknownSecret key deployment)) := by
    unfold Store.getSecret decoded? get?
    rw [shownRecords, SortedMap.find?_map]
    cases (s.records (secretCollection deployment)).find? key with
    | none => rfl
    | some bytes =>
      simp only [Option.map_some, Option.getD_some, shown]
      cases decode Secret.ofJson bytes <;> rfl
  rw [viewed, viewed, h.secrets]

/-- Of a list of records it is known from what may be shown of each whether all can be read. -/
theorem mapM_decode_redacted (records : List ByteArray) :
    (records.mapM (decode Secret.ofJson)).map (List.map Secret.redacted)
      = (records.map shown).mapM fun secret => secret := by
  induction records with
  | nil => rfl
  | cons bytes rest ih =>
    rw [List.mapM_cons, List.map_cons, List.mapM_cons, ← ih, shown]
    cases decode Secret.ofJson bytes with
    | error e => rfl
    | ok secret => cases rest.mapM (decode Secret.ofJson) <;> rfl

/-- The secrets of a deployment are listed alike, whatever their values are. -/
theorem Alike.listedSecrets (h : s.Alike s') (deployment : String) :
    (s.secrets deployment).map (List.map Secret.redacted)
      = (s'.secrets deployment).map (List.map Secret.redacted) := by
  have hvalues := congrArg SortedMap.values (h.secrets deployment)
  rw [shownRecords, shownRecords, SortedMap.values_map, SortedMap.values_map] at hvalues
  unfold Store.secrets values
  rw [mapM_decode_redacted, mapM_decode_redacted, hvalues]

end Store

end Orchestrator
