import Mathlib.Data.List.Nodup
import Orchestrator.Proofs.Fleet.Environment
import Orchestrator.Proofs.Naming.Grammar
import Orchestrator.Proofs.SortedMap.Listed
import Orchestrator.Proofs.Store.Deployments
import Orchestrator.Proofs.Text.Marks

/-!
# Which variables containers get

An environment has an entry for each variable of its deployment, and one for each secret that the deployment
lists and the store has. The variable of a secret is its key in upper case, with underscores for dashes. So
no variable is set twice just if the keys of these secrets stay different in that form, and none of them
becomes the name of a variable of the deployment: `set_once_iff`. Keys that differ in a dash become the same
variable: `set_thrice`.
-/
namespace Orchestrator.Fleet

open Engine

/-- The variable that an entry of an environment sets: the text before the first equals sign. -/
def variableOf (entry : String) : String := String.ofList (entry.toList.takeWhile (· ≠ '='))

/-- The listed keys under which the store has a secret of the deployment. -/
def heldKeys (s : Store) (d : Deployment) : List String :=
  d.secrets.keys.filter fun key => (s.getSecret d.name key).isOk

theorem variableOf_append {name : String} (h : '=' ∉ name.toList) (value : String) :
    variableOf (name ++ "=" ++ value) = name := by
  have hmark := Text.takeWhile_mark (r := value.toList) h
  rw [variableOf, String.toList_append, String.toList_append, List.append_assoc]
  exact (congrArg String.ofList hmark).trans String.ofList_toList

variable {s : Store} {d : Deployment}

theorem known (hsecrets : s.SecretsAdded) (name key : String) : Known s name key :=
  Store.getSecret_cases hsecrets.readable name key

/-- A secret that was added sets the variable of its key. -/
theorem variableOf_entry {key : String} (h : isSecretKey key = true) (value : String) :
    variableOf (variableName (aliasFor key) ++ "=" ++ value) = keyVariable key := by
  rw [variableName_aliasFor h]
  exact variableOf_append (notMem_keyVariable h).2 value

/-- The secrets that are found set the variables of the keys that are held. -/
theorem map_variableOf_found (hsecrets : s.SecretsAdded) (name : String) (entries : List (String × String)) :
    (found s name entries).map (fun r => variableOf (r.secret.envName ++ "=" ++ r.secret.value))
      = ((entries.map Prod.fst).filter fun key => (s.getSecret name key).isOk).map keyVariable := by
  induction entries with
  | nil => rfl
  | cons e rest ih =>
    rw [found] at ih ⊢
    rw [List.filterMap_cons, List.map_cons, List.filter_cons]
    obtain ⟨hkey, value, hsecret⟩ | hunknown := hsecrets.getSecret name e.1
    · have hentry := variableOf_entry hkey value
      rw [hsecret]
      exact List.cons_eq_cons.2 ⟨hentry, ih⟩
    · rw [hunknown]
      exact ih

/-- The entries of an environment set the deployment's variables, and then those of the keys that are
held. -/
theorem map_variableOf_environment (hsecrets : s.SecretsAdded) (henv : ∀ name ∈ d.env.keys, '=' ∉ name.toList) :
    (environment d.env (found s d.name d.secrets.entries)).map variableOf
      = d.env.keys ++ (heldKeys s d).map keyVariable := by
  have hplain : (d.env.entries.map fun e => variableOf
      (e.1 ++ "=" ++ substituted (found s d.name d.secrets.entries) e.2)) = d.env.keys := by
    refine List.map_congr_left fun e hmem => ?_
    exact variableOf_append (henv e.1 (List.mem_map_of_mem hmem)) _
  rw [environment, List.map_append, List.map_map, List.map_map]
  exact congrArg₂ (· ++ ·) hplain (map_variableOf_found hsecrets d.name d.secrets.entries)

/-- In a store whose secrets were added, the keys that are held are those with a record. -/
theorem heldKeys_eq (hsecrets : s.SecretsAdded) :
    heldKeys s d = d.secrets.keys.filter fun key => (s.get? (secretCollection d.name) key).isSome := by
  refine List.filter_congr fun key _ => ?_
  cases hget : s.get? (secretCollection d.name) key with
  | none =>
    rw [Store.getSecret, Store.decoded?, hget]
    rfl
  | some bytes =>
    obtain ⟨value, secret, -, rfl⟩ := hsecrets d.name key bytes hget
    rw [Store.getSecret, Store.decoded?, hget]
    simp only [Store.decode_secret]
    rfl

theorem nodup_heldKeys (s : Store) (d : Deployment) : (heldKeys s d).Nodup := (SortedMap.nodup_keys _).filter _

/-- Two lists in a row, the second one of images, have nothing twice just if the images of different ones
are different, and none of them is on the first list. -/
theorem nodup_append_map {names keys : List String} (hnames : names.Nodup) (hkeys : keys.Nodup)
    (f : String → String) : (names ++ keys.map f).Nodup ↔
      (∀ key ∈ keys, ∀ key' ∈ keys, f key = f key' → key = key') ∧ ∀ key ∈ keys, f key ∉ names := by
  rw [List.nodup_append, List.nodup_map_iff_inj_on hkeys]
  constructor
  · intro ⟨_, hinjective, hapart⟩
    refine ⟨hinjective, fun key hkey hmem => ?_⟩
    exact hapart (f key) hmem (f key) (List.mem_map_of_mem hkey) rfl
  · intro ⟨hinjective, hapart⟩
    refine ⟨hnames, hinjective, fun name hname variable' hvariable heq => ?_⟩
    obtain ⟨key, hkey, rfl⟩ := List.mem_map.1 hvariable
    exact hapart key hkey (heq ▸ hname)

/-- **Which variables are set once.** Let the secrets in the store be as they were added, and let no name of
a variable hold an equals sign. Then a container of the deployment can be described, and its environment
sets the variables of the deployment, in the order of their names, and then the variable of each key that is
listed and held, in the order of the keys. No variable is set twice just if different such keys have
different variables, and none of these is a variable of the deployment. -/
theorem set_once_iff (f : Fleet) (d : Deployment) (s : Daemon) (hsecrets : s.store.SecretsAdded)
    (henv : ∀ name ∈ d.env.keys, '=' ∉ name.toList) :
    ∃ spec, ((f.spec d).run.run Daemon.serve s).1 = .ok spec ∧
      spec.env.map variableOf = d.env.keys ++ (heldKeys s.store d).map keyVariable ∧
      ((spec.env.map variableOf).Nodup ↔
        (∀ key ∈ heldKeys s.store d, ∀ key' ∈ heldKeys s.store d,
          keyVariable key = keyVariable key' → key = key') ∧
        ∀ key ∈ heldKeys s.store d, keyVariable key ∉ d.env.keys) := by
  have hvariables := map_variableOf_environment hsecrets henv
  refine ⟨_, run_spec_known f fun e _ => known hsecrets d.name e.1, hvariables, ?_⟩
  rw [specFor, hvariables]
  exact nodup_append_map (SortedMap.nodup_keys d.env) (nodup_heldKeys s.store d) keyVariable

/-- It lists two secrets whose keys differ in a dash, and has a variable. -/
def api (setting : String) : Deployment :=
  { Deployment.new "api" "nginx" with
    env := .ofList [(setting, "plain")]
    secrets := .ofList [("db-password", "@FIRST"), ("db_password", "@SECOND")] }

/-- One of the two secrets was added. -/
def holdingOne : Daemon where
  store := (Store.new.addSecret "api" "db-password" "dash").2

/-- Both secrets were added. -/
def holdingBoth : Daemon where
  store := (holdingOne.store.addSecret "api" "db_password" "underscore").2

theorem secretsAdded_holdingOne : holdingOne.store.SecretsAdded :=
  (Store.Written.addSecret .new "api" "db-password" "dash").secretsAdded

theorem secretsAdded_holdingBoth : holdingBoth.store.SecretsAdded :=
  ((Store.Written.addSecret .new "api" "db-password" "dash").addSecret "api" "db_password"
    "underscore").secretsAdded

/-- The secret that is there has a variable of its own. -/
theorem set_once_iff_holdingOne : holdingOne.store.SecretsAdded ∧
    (∀ name ∈ (api "MODE").env.keys, '=' ∉ name.toList) ∧
    ∃ spec, ((({} : Fleet).spec (api "MODE")).run.run Daemon.serve holdingOne).1 = .ok spec ∧
      spec.env.map variableOf = ["MODE", "DB_PASSWORD"] ∧ (spec.env.map variableOf).Nodup := by
  have henv : ∀ name ∈ (api "MODE").env.keys, '=' ∉ name.toList := by decide +kernel
  have hheld : heldKeys holdingOne.store (api "MODE") = ["db-password"] := by
    rw [heldKeys_eq secretsAdded_holdingOne]
    decide +kernel
  obtain ⟨spec, hspec, hvariables, hiff⟩ := set_once_iff {} (api "MODE") holdingOne secretsAdded_holdingOne henv
  rw [hheld] at hvariables hiff
  refine ⟨secretsAdded_holdingOne, henv, spec, hspec, hvariables.trans (by decide +kernel), hiff.2 ⟨?_, ?_⟩⟩
  · simp
  · decide +kernel

/-- Both secrets have the variable of the deployment: it is set three times. -/
theorem set_thrice : holdingBoth.store.SecretsAdded ∧
    (∀ name ∈ (api "DB_PASSWORD").env.keys, '=' ∉ name.toList) ∧
    ∃ spec, ((({} : Fleet).spec (api "DB_PASSWORD")).run.run Daemon.serve holdingBoth).1 = .ok spec ∧
      spec.env.map variableOf = ["DB_PASSWORD", "DB_PASSWORD", "DB_PASSWORD"] ∧
      ¬ (spec.env.map variableOf).Nodup := by
  have henv : ∀ name ∈ (api "DB_PASSWORD").env.keys, '=' ∉ name.toList := by decide +kernel
  have hheld : heldKeys holdingBoth.store (api "DB_PASSWORD") = ["db-password", "db_password"] := by
    rw [heldKeys_eq secretsAdded_holdingBoth]
    decide +kernel
  have hvariables := map_variableOf_environment secretsAdded_holdingBoth henv
  have hthrice : (api "DB_PASSWORD").env.keys ++ ["db-password", "db_password"].map keyVariable
      = ["DB_PASSWORD", "DB_PASSWORD", "DB_PASSWORD"] := by decide +kernel
  rw [hheld, hthrice] at hvariables
  refine ⟨secretsAdded_holdingBoth, henv, _,
    run_spec_known {} fun e _ => known secretsAdded_holdingBoth _ e.1, hvariables, ?_⟩
  rw [specFor, hvariables]
  simp

end Orchestrator.Fleet
