import Orchestrator.Proofs.Store.Records
import Orchestrator.Proofs.Store.Secrets

/-!
# Whose secrets a call reaches

A call about secrets reaches the collection of the deployment it is addressed to, and no other
collection. So a deployment's secrets are out of reach of every call that is addressed to a name whose
lower case is another, and so are deployments and activity: `scope_kept`. The name is taken in lower case
also where it is not checked, so a call addressed to `API` reads and deletes the secrets of `api`:
`otherCase_reaches`.
-/
namespace Orchestrator.Store

/-! ## Calls -/

/-- A call about the secrets of the deployment it is addressed to. -/
inductive SecretCall where
  | add (key value : String)
  | get (key : String)
  | list
  | delete (key : String)
  | deleteAll

/-- What a call answers. -/
inductive SecretReply where
  /-- The secret that was added, or is under the key. -/
  | secret (outcome : Except StoreError Secret)
  | secrets (outcome : Except StoreError (List Secret))
  | deleted (outcome : Except StoreError Unit)
  /-- Whether there was a collection to delete. -/
  | existed (existed : Bool)

/-- Answers a call addressed to a deployment. -/
def answer (s : Store) (name : String) : SecretCall → SecretReply × Store
  | .add key value => let (outcome, s) := s.addSecret name key value; (.secret outcome, s)
  | .get key => (.secret (s.getSecret name key), s)
  | .list => (.secrets (s.secrets name), s)
  | .delete key => let (outcome, s) := s.deleteSecret name key; (.deleted outcome, s)
  | .deleteAll => let (existed, s) := s.deleteSecrets name; (.existed existed, s)

/-- Answers calls in turn, and tells what was answered to whom. -/
def dialogue (s : Store) : List (String × SecretCall) → List (String × SecretReply) × Store
  | [] => ([], s)
  | (name, call) :: rest =>
    let (reply, s) := s.answer name call
    let (replies, s) := s.dialogue rest
    ((name, reply) :: replies, s)

variable {s t : Store} {m n name c : String}

/-! ## What a call reaches -/

/-- A call touches no collection but the one it is addressed to. -/
theorem find?_answer_of_ne (s : Store) (h : c ≠ secretCollection name) (call : SecretCall) :
    (s.answer name call).2.collections.find? c = s.collections.find? c := by
  cases call with
  | add key value =>
    simp only [answer, addSecret]
    split
    · rfl
    · split
      · rfl
      · rw [put, find?_insert_collection, if_neg h]
  | get key => rfl
  | list => rfl
  | delete key => rw [answer, deleteSecret, remove, find?_insert_collection, if_neg h]
  | deleteAll => rw [answer, deleteSecrets, drop, find?_erase_collection, if_neg h]

/-- What a call answers and leaves in the collection it is addressed to depends on that collection only. -/
theorem answer_congr
    (h : s.collections.find? (secretCollection name) = t.collections.find? (secretCollection name))
    (call : SecretCall) :
    (s.answer name call).1 = (t.answer name call).1 ∧
      (s.answer name call).2.collections.find? (secretCollection name)
        = (t.answer name call).2.collections.find? (secretCollection name) := by
  have hrecords : s.records (secretCollection name) = t.records (secretCollection name) := by
    rw [records, records, h]
  cases call with
  | add key value =>
    simp only [answer, addSecret]
    split
    · exact ⟨rfl, h⟩
    · split
      · exact ⟨rfl, h⟩
      · refine ⟨rfl, ?_⟩
        rw [put, put, find?_insert_collection, find?_insert_collection, if_pos rfl, if_pos rfl, hrecords]
  | get key =>
    refine ⟨?_, h⟩
    rw [answer, answer, getSecret, getSecret, decoded?, decoded?, get?, get?, hrecords]
  | list =>
    refine ⟨?_, h⟩
    rw [answer, answer, secrets, secrets, values, values, hrecords]
  | delete key =>
    simp only [answer, deleteSecret, remove, hrecords, find?_insert_collection, if_true]
    exact ⟨rfl, trivial⟩
  | deleteAll =>
    simp only [answer, deleteSecrets, drop, SortedMap.contains, h, find?_erase_collection, if_true]
    exact ⟨trivial, trivial⟩

/-- Stores that agree on a collection still do after the same call. -/
theorem find?_answer_congr (h : s.collections.find? c = t.collections.find? c) (name : String)
    (call : SecretCall) :
    (s.answer name call).2.collections.find? c = (t.answer name call).2.collections.find? c := by
  by_cases hc : c = secretCollection name
  · subst hc
    exact (answer_congr h call).2
  · rw [find?_answer_of_ne s hc, find?_answer_of_ne t hc, h]

/-! ## What calls in turn reach -/

theorem dialogue_cons (s : Store) (call : String × SecretCall) (rest : List (String × SecretCall)) :
    (s.dialogue (call :: rest)).1
      = (call.1, (s.answer call.1 call.2).1) :: ((s.answer call.1 call.2).2.dialogue rest).1 := rfl

/-- Calls that are all addressed elsewhere leave a collection as it is. -/
theorem find?_dialogue {calls : List (String × SecretCall)}
    (h : ∀ call ∈ calls, c ≠ secretCollection call.1) (s : Store) :
    (s.dialogue calls).2.collections.find? c = s.collections.find? c := by
  induction calls generalizing s with
  | nil => rfl
  | cons call rest ih =>
    obtain ⟨hcall, hrest⟩ := List.forall_mem_cons.1 h
    exact (ih hrest _).trans (s.find?_answer_of_ne hcall call.2)

/-- The replies to one deployment stay the same if all that is addressed to another is left out, and
with it whatever the other's collection held at first. -/
theorem replies_dialogue (hne : secretCollection m ≠ secretCollection n)
    (h : s.collections.find? (secretCollection m) = t.collections.find? (secretCollection m))
    (calls : List (String × SecretCall)) :
    (s.dialogue calls).1.filter (·.1 = m)
      = (t.dialogue (calls.filter (·.1 ≠ n))).1.filter (·.1 = m) := by
  induction calls generalizing s t with
  | nil => rfl
  | cons call rest ih =>
    by_cases hn : call.1 = n
    · -- the call is left out, and its reply is not one to `m`
      have hm : call.1 ≠ m := by
        rintro rfl
        exact hne (congrArg secretCollection hn)
      have hcollection : secretCollection m ≠ secretCollection call.1 := by rwa [hn]
      rw [dialogue_cons, List.filter_cons_of_neg (by simpa using hm), List.filter_cons_of_neg (by simp [hn])]
      exact ih ((s.find?_answer_of_ne hcollection call.2).trans h)
    · have hkept : (call :: rest).filter (·.1 ≠ n) = call :: rest.filter (·.1 ≠ n) :=
        List.filter_cons_of_pos (by simpa using hn)
      have hrest := ih (find?_answer_congr h call.1 call.2)
      rw [hkept, dialogue_cons, dialogue_cons]
      by_cases hm : call.1 = m
      · rw [List.filter_cons_of_pos (by simpa using hm), List.filter_cons_of_pos (by simpa using hm), hrest,
          hm, (answer_congr h call.2).1]
      · rw [List.filter_cons_of_neg (by simpa using hm), List.filter_cons_of_neg (by simpa using hm), hrest]

/-! ## Scopes -/

/-- For a deployment, one store is as another: it has the same secrets under the deployment's name, the
same deployments and the same activity. -/
structure Spared (n : String) (s t : Store) : Prop where
  getSecret (key : String) : t.getSecret n key = s.getSecret n key
  secrets : t.secrets n = s.secrets n
  deployments : t.deployments = s.deployments
  findDeployment (name : String) : t.findDeployment name = s.findDeployment name
  getDeployment (name : String) : t.getDeployment name = s.getDeployment name
  activityBetween (start stop : Instant) : t.activityBetween start stop = s.activityBetween start stop
  activityFor (scope : String) (start stop : Instant) :
    t.activityFor scope start stop = s.activityFor scope start stop

theorem spared_of_collections
    (hsecrets : t.collections.find? (secretCollection n) = s.collections.find? (secretCollection n))
    (hdeployments : t.collections.find? deploymentCollection = s.collections.find? deploymentCollection)
    (hactivity : t.collections.find? activityCollection = s.collections.find? activityCollection) :
    Spared n s t := by
  have records_eq {c : String} (h : t.collections.find? c = s.collections.find? c) :
      t.records c = s.records c := by
    rw [records, records, h]
  have hfind (name : String) : t.findDeployment name = s.findDeployment name := by
    rw [findDeployment, findDeployment, decoded?, decoded?, get?, get?, records_eq hdeployments]
  have hbetween (start stop : Instant) : t.activityBetween start stop = s.activityBetween start stop := by
    rw [activityBetween, activityBetween, valuesBetween, valuesBetween, records_eq hactivity]
  refine ⟨fun key => ?_, ?_, ?_, hfind, fun name => ?_, hbetween, fun scope start stop => ?_⟩
  · rw [getSecret, getSecret, decoded?, decoded?, get?, get?, records_eq hsecrets]
  · rw [secrets, secrets, values, values, records_eq hsecrets]
  · rw [deployments, deployments, values, values, records_eq hdeployments]
  · rw [getDeployment, getDeployment, hfind]
  · rw [activityFor, activityFor, hbetween]

/-- Calls addressed to one name leave the secrets of every deployment that is called otherwise than the
name in lower case, all deployments and all activity as they are, and are answered as if the deployment
had no secrets and nothing were ever addressed to it. -/
theorem scope_kept (hn : isDeploymentName n = true) (hm : Text.toLower m.toList ≠ n.toList) (s : Store) :
    (∀ calls : List SecretCall, Spared n s (s.dialogue (calls.map (m, ·))).2) ∧
      ∀ calls : List (String × SecretCall), (s.dialogue calls).1.filter (·.1 = m)
        = ((s.deleteSecrets n).2.dialogue (calls.filter (·.1 ≠ n))).1.filter (·.1 = m) := by
  have hne : secretCollection m ≠ secretCollection n := by
    rw [ne_eq, secretCollection_eq_iff, toLower_of_isDeploymentName hn]
    exact hm
  have hkept {c : String} (hc : c ≠ secretCollection m) (calls : List SecretCall) :
      (s.dialogue (calls.map (m, ·))).2.collections.find? c = s.collections.find? c := by
    refine find?_dialogue (fun call hcall => ?_) s
    obtain ⟨_, -, rfl⟩ := List.mem_map.1 hcall
    exact hc
  refine ⟨fun calls => spared_of_collections (hkept hne.symm calls) ?_ ?_, fun calls => ?_⟩
  · exact hkept (secretCollection_ne_deployments m).symm calls
  · exact hkept (secretCollection_ne_activity m).symm calls
  · refine replies_dialogue hne ?_ calls
    rw [deleteSecrets, drop, find?_erase_collection, if_neg hne]

/-- Of a secret that is then added to `api` and listed there, calls addressed to `Web` learn nothing. -/
theorem scope_kept_web :
    isDeploymentName "api" = true ∧ Text.toLower "Web".toList ≠ "api".toList ∧
      Spared "api" new (new.dialogue [("Web", .deleteAll), ("Web", .delete "token")]).2 ∧
      (new.dialogue [("api", .add "token" "a"), ("Web", .list), ("Web", .get "token")]).1.filter
          (·.1 = "Web")
        = ((new.deleteSecrets "api").2.dialogue [("Web", .list), ("Web", .get "token")]).1.filter
          (·.1 = "Web") := by
  have hname : isDeploymentName "api" = true := by decide
  have hlower : Text.toLower "Web".toList ≠ "api".toList := by decide
  obtain ⟨hspared, hreplies⟩ := scope_kept hname hlower new
  exact ⟨hname, hlower, hspared [.deleteAll, .delete "token"], hreplies _⟩

/-! ## The same name in another case -/

/-- What was added is read under every name that agrees with the deployment's in lower case. -/
theorem getSecret_addSecret (hm : Text.toLower m.toList = Text.toLower n.toList) {key value : String}
    {secret : Secret} (h : (s.addSecret n key value).1 = .ok secret) :
    (s.addSecret n key value).2.getSecret m secret.key = .ok secret := by
  unfold addSecret at h ⊢
  split at h
  · cases h
  · split at h
    · cases h
    · obtain rfl := Except.ok.inj h
      dsimp only
      rw [getSecret, decoded?, get?_put, if_pos ⟨secretCollection_eq_iff.2 hm, rfl⟩]
      simp only [decode_secret]
      rfl

/-- What is deleted under one such name is gone under the other. -/
theorem getSecret_deleteSecret (hm : Text.toLower m.toList = Text.toLower n.toList) (s : Store)
    (key : String) : (s.deleteSecret m key).2.getSecret n key = .error (.unknownSecret key n) := by
  rw [deleteSecret, getSecret, decoded?, get?_remove, if_pos ⟨(secretCollection_eq_iff.2 hm).symm, rfl⟩]
  rfl

/-- A call addressed to `API` reads and deletes a secret that was added under `api`. -/
theorem otherCase_reaches :
    isDeploymentName "api" = true ∧ "API" ≠ "api" ∧
      (new.addSecret "api" "token" "a").1 = .ok ⟨"token", "a", "@TOKEN"⟩ ∧
      (new.addSecret "api" "token" "a").2.getSecret "API" "token" = .ok ⟨"token", "a", "@TOKEN"⟩ ∧
      (new.addSecret "api" "token" "a").2.getSecret "api" "token" = .ok ⟨"token", "a", "@TOKEN"⟩ ∧
      ((new.addSecret "api" "token" "a").2.deleteSecret "API" "token").2.getSecret "api" "token"
        = .error (.unknownSecret "token" "api") := by
  have hcase : Text.toLower "API".toList = Text.toLower "api".toList := by decide
  have hadded : (new.addSecret "api" "token" "a").1 = .ok ⟨"token", "a", "@TOKEN"⟩ := by rfl
  exact ⟨by decide, by decide, hadded, getSecret_addSecret hcase hadded, getSecret_addSecret rfl hadded,
    getSecret_deleteSecret hcase _ _⟩

end Orchestrator.Store
