import Mathlib.Data.List.Nodup
import Orchestrator.Proofs.Store.Records
import Orchestrator.Proofs.Store.Secrets

/-!
# What the store has saved

The collection of deployments holds each saved deployment under its name, as it was saved, and nothing
else: `Holds`. It is so in a new store, and stays so when deployments are saved and deleted and when
other collections are written to, which secrets and activity are. So listing the deployments gives
exactly the saved ones (`Holds.deployments`), and reading a secret that is well formed never fails
(`getSecret_cases`). Both hold of every store that was written to by its own operations
(`Written.holds`). Secrets come into such a store by being added only, so they are as they were added
(`Written.secretsAdded`).
-/
namespace Orchestrator

/-- A valid deployment has a name. -/
theorem Deployment.named_of_validate {d : Deployment} {u : Unit} (h : d.validate = .ok u) :
    isDeploymentName d.name = true := by
  unfold Deployment.validate validateName at h
  cases hname : isDeploymentName d.name with
  | true => rfl
  | false =>
    rw [hname] at h
    cases h

/-- A secret has a valid key, and the alias of that key. -/
theorem Secret.new_eq_ok {key value : String} {secret : Secret} (h : Secret.new key value = .ok secret) :
    isSecretKey key = true ∧ secret = ⟨key, value, aliasFor key⟩ := by
  unfold Secret.new validateKey at h
  by_cases hkey : isSecretKey key = true
  · rw [if_pos hkey] at h
    exact ⟨hkey, (Except.ok.inj h).symm⟩
  · rw [if_neg hkey] at h
    cases h

namespace Store

open Orchestrator.Json

/-! ## Saved deployments -/

/-- The entry of a saved deployment in its collection. -/
def savedEntry (d : Deployment) : String × ByteArray := (d.name, encode d.toJson)

/-- The store holds these deployments, which have names, and no others. -/
structure Holds (s : Store) (saved : List Deployment) : Prop where
  entries : (s.records deploymentCollection).entries = saved.map savedEntry
  named : ∀ d ∈ saved, isDeploymentName d.name = true

variable {s t : Store} {saved : List Deployment}

theorem holds_new : new.Holds [] := ⟨rfl, fun _ hd => by cases hd⟩

/-- A store with the same collection of deployments holds the same. -/
theorem Holds.of_records (h : s.Holds saved)
    (hsame : t.records deploymentCollection = s.records deploymentCollection) : t.Holds saved := by
  refine ⟨?_, h.named⟩
  rw [hsame]
  exact h.entries

/-- No name is used twice. -/
theorem Holds.nodup (h : s.Holds saved) : (saved.map Deployment.name).Nodup := by
  have hsorted := (s.records deploymentCollection).sorted
  rw [h.entries, List.pairwise_map] at hsorted
  rw [List.Nodup, List.pairwise_map]
  apply hsorted.imp
  intro a b hlt heq
  rw [savedEntry, savedEntry, heq] at hlt
  simp at hlt

/-- The saved deployments are what a listing gives. -/
theorem Holds.deployments (h : s.Holds saved) : s.deployments = .ok saved := by
  have hvalues : s.values deploymentCollection = saved.map fun d => encode d.toJson := by
    rw [values, SortedMap.values, h.entries, List.map_map]
    simp only [Function.comp_def, savedEntry]
  rw [Store.deployments, hvalues]
  exact mapM_map_ok decode_deployment saved

/-- An entry is put among others: it replaces the one of its name, and no other is lost or made. -/
theorem insertEntry_savedEntry (d : Deployment) (saved : List Deployment) :
    ∃ saved', SortedMap.insertEntry d.name (encode d.toJson) (saved.map savedEntry)
        = saved'.map savedEntry ∧
      d ∈ saved' ∧ saved' ⊆ d :: saved ∧ ∀ e ∈ saved, e.name ≠ d.name → e ∈ saved' := by
  induction saved with
  | nil => exact ⟨[d], rfl, List.mem_cons_self, fun _ h => h, fun _ h => by cases h⟩
  | cons e saved ih =>
    obtain ⟨saved', hinsert, hmem, hsub, hkept⟩ := ih
    simp only [List.map_cons, savedEntry, SortedMap.insertEntry]
    split
    · exact ⟨d :: e :: saved, rfl, List.mem_cons_self, fun _ h => h,
        fun _ h _ => List.mem_cons_of_mem _ h⟩
    · rename_i heq
      have hname : d.name = e.name := Std.LawfulEqOrd.eq_of_compare heq
      refine ⟨d :: saved, rfl, List.mem_cons_self, ?_, ?_⟩
      · exact List.cons_subset_cons d (List.subset_cons_self e saved)
      · intro e' he' hne
        rcases List.mem_cons.1 he' with rfl | he'
        · exact absurd hname.symm hne
        · exact List.mem_cons_of_mem _ he'
    · refine ⟨e :: saved', by rw [List.map_cons, ← hinsert]; rfl, List.mem_cons_of_mem _ hmem, ?_, ?_⟩
      · intro e' he'
        rcases List.mem_cons.1 he' with rfl | he'
        · exact List.mem_cons_of_mem _ List.mem_cons_self
        · rcases List.mem_cons.1 (hsub he') with rfl | he'
          · exact List.mem_cons_self
          · exact List.mem_cons_of_mem _ (List.mem_cons_of_mem _ he')
      · intro e' he' hne
        rcases List.mem_cons.1 he' with rfl | he'
        · exact List.mem_cons_self
        · exact List.mem_cons_of_mem _ (hkept e' he' hne)

/-- Saving a deployment adds it with its blanks filled in, in place of one of its name, or is refused
and changes nothing. -/
theorem Holds.saveDeployment (h : s.Holds saved) (d : Deployment) :
    (∃ e, s.saveDeployment d = (.error e, s)) ∨
      (s.saveDeployment d).1 = .ok d.withDefaults ∧
      ∃ saved', (s.saveDeployment d).2.Holds saved' ∧
        ∀ e, e ∈ saved' ↔ e = d.withDefaults ∨ e ∈ saved ∧ e.name ≠ d.name := by
  unfold Store.saveDeployment
  dsimp only
  cases hvalid : d.withDefaults.validate with
  | error e => exact .inl ⟨_, rfl⟩
  | ok u =>
    right
    obtain ⟨saved', hinsert, hmem, hsub, hkept⟩ := insertEntry_savedEntry d.withDefaults saved
    have hholds : (s.put deploymentCollection d.withDefaults.name (encode d.withDefaults.toJson)).Holds
        saved' := by
      refine ⟨?_, ?_⟩
      · rw [put, records_insert, if_pos rfl, ← hinsert, ← h.entries]
        rfl
      · intro e he
        rcases List.mem_cons.1 (hsub he) with rfl | he
        · exact Deployment.named_of_validate hvalid
        · exact h.named e he
    refine ⟨rfl, saved', hholds, fun e => ⟨fun he => ?_, ?_⟩⟩
    · rcases List.mem_cons.1 (hsub he) with rfl | hold
      · exact .inl rfl
      · by_cases hname : e.name = d.name
        · exact .inl (List.inj_on_of_nodup_map hholds.nodup he hmem hname)
        · exact .inr ⟨hold, hname⟩
    · rintro (rfl | ⟨hold, hname⟩)
      · exact hmem
      · exact hkept e hold hname

/-- Deleting a deployment takes it away and no other. -/
theorem Holds.deleteDeployment (h : s.Holds saved) (name : String) :
    (s.deleteDeployment name).2.Holds (saved.filter fun d => d.name ≠ name) := by
  refine ⟨?_, fun d hd => h.named d (List.mem_filter.1 hd).1⟩
  rw [Store.deleteDeployment, remove, records_insert, if_pos rfl]
  change (s.records deploymentCollection).entries.filter _ = _
  rw [h.entries, List.filter_map]
  refine congrArg (List.map savedEntry) (List.filter_congr fun d _ => ?_)
  change decide (compare name d.name ≠ .eq) = decide (d.name ≠ name)
  rw [Bool.eq_iff_iff, decide_eq_true_iff, decide_eq_true_iff, ne_eq, ne_eq,
    Std.LawfulEqOrd.compare_eq_iff_eq, eq_comm]

/-- Records of finished jobs are no deployments. -/
theorem Holds.recordActivity (h : s.Holds saved) (a : Activity) : (s.recordActivity a).Holds saved := by
  apply h.of_records
  rw [Store.recordActivity, put, records_insert, if_neg (by decide)]

/-! ## Well formed secrets -/

/-- Every record in a collection of secrets is a secret. -/
def SecretsReadable (s : Store) : Prop :=
  ∀ deployment key bytes, s.get? (secretCollection deployment) key = some bytes →
    ∃ secret, decode Secret.ofJson bytes = .ok secret

/-- A secret is there, or it is not known. -/
theorem getSecret_cases (h : s.SecretsReadable) (deployment key : String) :
    (∃ secret, s.getSecret deployment key = .ok secret) ∨
      s.getSecret deployment key = .error (.unknownSecret key deployment) := by
  unfold getSecret decoded?
  cases hget : s.get? (secretCollection deployment) key with
  | none => exact .inr rfl
  | some bytes =>
    obtain ⟨secret, hdecode⟩ := h deployment key bytes hget
    refine .inl ⟨secret, ?_⟩
    simp only [hdecode]
    rfl

/-- Every record in a collection of secrets is as it should be under its key. -/
def SecretsAre (good : String → ByteArray → Prop) (s : Store) : Prop :=
  ∀ deployment key bytes, s.get? (secretCollection deployment) key = some bytes → good key bytes

section SecretsAre

variable {good : String → ByteArray → Prop}

theorem secretsAre_new : new.SecretsAre good := by
  intro deployment key bytes h
  have hnone : new.get? (secretCollection deployment) key = none := by
    rw [new, get?_create, get?_create]
    rfl
  rw [hnone] at h
  cases h

/-- A secret that is added is as it should be, if every new one is. -/
theorem SecretsAre.addSecret (h : s.SecretsAre good) (deployment : String) {key value : String}
    (hgood : ∀ secret, Secret.new key value = .ok secret → good key (encode secret.toJson)) :
    (s.addSecret deployment key value).2.SecretsAre good := by
  unfold Store.addSecret
  split
  · exact h
  · split
    · exact h
    · rename_i secret hnew
      intro deployment' key' bytes hget
      rw [get?_put] at hget
      split at hget
      · rename_i heq
        obtain ⟨-, rfl⟩ := heq
        obtain rfl := Option.some.inj hget
        obtain rfl := (Secret.new_eq_ok hnew).2
        exact hgood _ hnew
      · exact h deployment' key' bytes hget

/-- Removing a record leaves the others as they are. -/
theorem SecretsAre.remove (h : s.SecretsAre good) (collection key : String) :
    (s.remove collection key).2.SecretsAre good := by
  intro deployment key' bytes hget
  rw [get?_remove] at hget
  split at hget
  · cases hget
  · exact h deployment key' bytes hget

theorem SecretsAre.deleteSecrets (h : s.SecretsAre good) (deployment : String) :
    (s.deleteSecrets deployment).2.SecretsAre good := by
  intro deployment' key bytes hget
  rw [Store.deleteSecrets, get?_drop] at hget
  split at hget
  · cases hget
  · exact h deployment' key bytes hget

/-- Writing to another collection leaves secrets as they are. -/
theorem SecretsAre.put (h : s.SecretsAre good) {collection : String}
    (hother : ∀ deployment, secretCollection deployment ≠ collection) (key : String) (value : ByteArray) :
    (s.put collection key value).SecretsAre good := by
  intro deployment' key' bytes hget
  rw [get?_put, if_neg fun heq => hother deployment' heq.1] at hget
  exact h deployment' key' bytes hget

theorem SecretsAre.recordActivity (h : s.SecretsAre good) (a : Activity) :
    (s.recordActivity a).SecretsAre good := h.put secretCollection_ne_activity _ _

theorem SecretsAre.saveDeployment (h : s.SecretsAre good) (d : Deployment) :
    (s.saveDeployment d).2.SecretsAre good := by
  unfold Store.saveDeployment
  dsimp only
  split
  · exact h
  · exact h.put secretCollection_ne_deployments _ _

end SecretsAre

theorem secretsReadable_new : new.SecretsReadable := secretsAre_new

theorem SecretsReadable.recordActivity (h : s.SecretsReadable) (a : Activity) :
    (s.recordActivity a).SecretsReadable := SecretsAre.recordActivity h a

theorem SecretsReadable.saveDeployment (h : s.SecretsReadable) (d : Deployment) :
    (s.saveDeployment d).2.SecretsReadable := SecretsAre.saveDeployment h d

/-- Every record in a collection of secrets is that of a secret which was added under its key. -/
def SecretsAdded (s : Store) : Prop :=
  ∀ deployment key bytes, s.get? (secretCollection deployment) key = some bytes →
    ∃ value secret, Secret.new key value = .ok secret ∧ bytes = encode secret.toJson

/-- What was added is a secret. -/
theorem SecretsAdded.readable (h : s.SecretsAdded) : s.SecretsReadable := by
  intro deployment key bytes hget
  obtain ⟨value, secret, -, rfl⟩ := h deployment key bytes hget
  exact ⟨secret, decode_secret secret⟩

/-- What was added is found as it was added. -/
theorem SecretsAdded.getSecret (h : s.SecretsAdded) (deployment key : String) :
    (isSecretKey key = true ∧ ∃ value, s.getSecret deployment key = .ok ⟨key, value, aliasFor key⟩) ∨
      s.getSecret deployment key = .error (.unknownSecret key deployment) := by
  unfold Store.getSecret decoded?
  cases hget : s.get? (secretCollection deployment) key with
  | none => exact .inr rfl
  | some bytes =>
    obtain ⟨value, secret, hnew, rfl⟩ := h deployment key bytes hget
    obtain ⟨hkey, rfl⟩ := Secret.new_eq_ok hnew
    refine .inl ⟨hkey, value, ?_⟩
    simp only [decode_secret]
    rfl

/-- Adding a secret leaves the deployments as they are. -/
theorem Holds.addSecret (h : s.Holds saved) (deployment key value : String) :
    (s.addSecret deployment key value).2.Holds saved := by
  unfold Store.addSecret
  split
  · exact h
  · split
    · exact h
    · apply h.of_records
      rw [Store.put, records_insert, if_neg (secretCollection_ne_deployments deployment).symm]

theorem Holds.deleteSecret (h : s.Holds saved) (deployment key : String) :
    (s.deleteSecret deployment key).2.Holds saved := by
  apply h.of_records
  rw [Store.deleteSecret, remove, records_insert, if_neg (secretCollection_ne_deployments deployment).symm]

theorem records_drop (s : Store) (c c' : String) :
    (s.drop c').2.records c = if c = c' then ∅ else s.records c := by
  by_cases h : c = c' <;> simp [records, drop, SortedMap.find?_erase, h]

theorem Holds.deleteSecrets (h : s.Holds saved) (deployment : String) :
    (s.deleteSecrets deployment).2.Holds saved := by
  apply h.of_records
  rw [Store.deleteSecrets, records_drop, if_neg (secretCollection_ne_deployments deployment).symm]

/-! ## Refused writes -/

/-- A save that is refused changes nothing. -/
theorem saveDeployment_refused {given : Deployment} {e : StoreError}
    (h : (s.saveDeployment given).1 = .error e) : (s.saveDeployment given).2 = s := by
  unfold saveDeployment at h ⊢
  dsimp only at h ⊢
  split
  · rfl
  · rename_i hvalid
    rw [hvalid] at h
    cases h

/-- A secret that is refused changes nothing. -/
theorem addSecret_refused {deployment key value : String} {e : StoreError}
    (h : (s.addSecret deployment key value).1 = .error e) : (s.addSecret deployment key value).2 = s := by
  unfold addSecret at h ⊢
  split
  · rfl
  · rename_i hname
    rw [hname] at h
    split
    · rfl
    · rename_i hnew
      rw [hnew] at h
      cases h

/-- A collection that exists is not made again. -/
theorem create_eq_self {c : String} (h : s.collections.contains c = true) : s.create c = s := by
  obtain ⟨records, hfind⟩ := Option.isSome_iff_exists.1 h
  have hsame : s.records c = records := by rw [Store.records, hfind, Option.getD_some]
  rw [create, hsame, SortedMap.insert_eq_self hfind]

/-- To remove a record that is not there makes the collection, and does nothing else. -/
theorem remove_absent {c key : String} (h : (s.remove c key).1 = false) :
    (s.remove c key).2 = s.create c := by
  have herase : (s.records c).erase key = s.records c := SortedMap.erase_eq_self h
  rw [remove, create, herase]

/-! ## Stores that were written to -/

/-- A store to which nothing was written but deployments, their secrets and records of finished jobs. -/
inductive Written : Store → Prop
  | new : Written .new
  | saveDeployment {s : Store} (h : Written s) (d : Deployment) : Written (s.saveDeployment d).2
  | deleteDeployment {s : Store} (h : Written s) (name : String) : Written (s.deleteDeployment name).2
  | addSecret {s : Store} (h : Written s) (deployment key value : String) :
    Written (s.addSecret deployment key value).2
  | deleteSecret {s : Store} (h : Written s) (deployment key : String) :
    Written (s.deleteSecret deployment key).2
  | deleteSecrets {s : Store} (h : Written s) (deployment : String) :
    Written (s.deleteSecrets deployment).2
  | recordActivity {s : Store} (h : Written s) (a : Activity) : Written (s.recordActivity a)

/-- What is true of every secret that is added is true of the secrets in such a store. -/
theorem Written.secretsAre {good : String → ByteArray → Prop}
    (hgood : ∀ key value secret, Secret.new key value = .ok secret → good key (encode secret.toJson))
    (h : Written s) : s.SecretsAre good := by
  induction h with
  | new => exact secretsAre_new
  | saveDeployment _ d ih => exact ih.saveDeployment d
  | deleteDeployment _ name ih => exact ih.remove _ _
  | addSecret _ deployment key value ih => exact ih.addSecret deployment (hgood key value)
  | deleteSecret _ deployment key ih => exact ih.remove _ _
  | deleteSecrets _ deployment ih => exact ih.deleteSecrets deployment
  | recordActivity _ a ih => exact ih.recordActivity a

/-- Its secrets are as they were added. -/
theorem Written.secretsAdded (h : Written s) : s.SecretsAdded :=
  h.secretsAre fun _ value secret hnew => ⟨value, secret, hnew, rfl⟩

/-- Such a store can be read: it holds deployments, and its secrets are well formed. -/
theorem Written.holds (h : Written s) : s.SecretsReadable ∧ ∃ saved, s.Holds saved := by
  refine ⟨h.secretsAdded.readable, ?_⟩
  induction h with
  | new => exact ⟨[], holds_new⟩
  | saveDeployment _ d ih =>
    obtain ⟨saved, hholds⟩ := ih
    rcases hholds.saveDeployment d with ⟨e, hsame⟩ | ⟨-, saved', hsaved', -⟩
    · rw [hsame]
      exact ⟨saved, hholds⟩
    · exact ⟨saved', hsaved'⟩
  | deleteDeployment _ name ih =>
    obtain ⟨saved, hholds⟩ := ih
    exact ⟨_, hholds.deleteDeployment name⟩
  | addSecret _ deployment key value ih =>
    obtain ⟨saved, hholds⟩ := ih
    exact ⟨saved, hholds.addSecret deployment key value⟩
  | deleteSecret _ deployment key ih =>
    obtain ⟨saved, hholds⟩ := ih
    exact ⟨saved, hholds.deleteSecret deployment key⟩
  | deleteSecrets _ deployment ih =>
    obtain ⟨saved, hholds⟩ := ih
    exact ⟨saved, hholds.deleteSecrets deployment⟩
  | recordActivity _ a ih =>
    obtain ⟨saved, hholds⟩ := ih
    exact ⟨saved, hholds.recordActivity a⟩

theorem contains_insert_collection {c : String} (h : s.collections.contains c = true) (c' : String)
    (r : Records) : (s.collections.insert c' r).contains c = true := by
  rw [SortedMap.contains, find?_insert_collection]
  split
  · rfl
  · exact h

/-- The collection of deployments is there from the beginning and is never dropped. -/
theorem Written.contains_deployments (h : Written s) :
    s.collections.contains deploymentCollection = true := by
  induction h with
  | new => decide
  | saveDeployment _ d ih =>
    unfold Store.saveDeployment
    dsimp only
    split
    · exact ih
    · exact contains_insert_collection ih _ _
  | deleteDeployment _ name ih => exact contains_insert_collection ih _ _
  | addSecret _ deployment key value ih =>
    unfold Store.addSecret
    split
    · exact ih
    · split
      · exact ih
      · exact contains_insert_collection ih _ _
  | deleteSecret _ deployment key ih => exact contains_insert_collection ih _ _
  | deleteSecrets _ deployment ih =>
    rw [Store.deleteSecrets, drop, SortedMap.contains, find?_erase_collection,
      if_neg (secretCollection_ne_deployments deployment).symm]
    exact ih
  | recordActivity _ a ih => exact contains_insert_collection ih _ _

end Store

end Orchestrator
