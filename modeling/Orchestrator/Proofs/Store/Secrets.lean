import Orchestrator.Proofs.Naming.Grammar
import Orchestrator.Store.Typed

/-!
# Collections of secrets

The collection of a deployment's secrets is called as the deployment is, in lower case, and then
`-secrets`. So it is neither the collection of deployments nor that of activity, whatever the deployment
is called, and it is that of another deployment just when the two names agree in lower case
(`secretCollection_eq_iff`).
-/
namespace Orchestrator

theorem toList_secretCollection (deployment : String) :
    (secretCollection deployment).toList = Text.toLower deployment.toList ++ "-secrets".toList := by
  rw [secretCollection, String.toList_ofList, String.toList_append]
  exact Text.lowerAfter_append_dash [] deployment.toList "secrets".toList

theorem secretCollection_eq_iff {m n : String} :
    secretCollection m = secretCollection n ↔ Text.toLower m.toList = Text.toLower n.toList := by
  rw [← String.toList_inj, toList_secretCollection, toList_secretCollection]
  exact List.append_left_inj _

/-- A collection whose name does not end like those of secrets is none of them. -/
theorem secretCollection_ne {collection : String} (h : ¬ "-secrets".toList <:+ collection.toList)
    (deployment : String) : secretCollection deployment ≠ collection := by
  rintro rfl
  rw [toList_secretCollection] at h
  exact h (List.suffix_append _ _)

theorem secretCollection_ne_activity (deployment : String) :
    secretCollection deployment ≠ Store.activityCollection := secretCollection_ne (by decide) deployment

theorem secretCollection_ne_deployments (deployment : String) :
    secretCollection deployment ≠ Store.deploymentCollection := secretCollection_ne (by decide) deployment

theorem secretCollection_ne_empty (deployment : String) : secretCollection deployment ≠ "" :=
  secretCollection_ne (by decide) deployment

/-! ## Secrets beside activity -/

/-- Records of finished jobs touch no secret. -/
theorem Store.getSecret_recordActivity (s : Store) (a : Activity) (deployment key : String) :
    (s.recordActivity a).getSecret deployment key = s.getSecret deployment key := by
  have same : (s.recordActivity a).get? (secretCollection deployment) key
      = s.get? (secretCollection deployment) key := by
    unfold Store.recordActivity
    rw [Store.get?_put, if_neg fun h => secretCollection_ne_activity deployment h.1]
  unfold Store.getSecret Store.decoded?
  rw [same]

end Orchestrator
