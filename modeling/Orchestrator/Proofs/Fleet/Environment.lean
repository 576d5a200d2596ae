import Mathlib.Data.List.Forall2
import Orchestrator.Daemon.Basic
import Orchestrator.Proofs.Store.Activity
import Orchestrator.Proofs.Store.Records
import Orchestrator.Proofs.Store.Secrets

/-!
# What containers get to see of secrets

The environment of a container has its deployment's variables and the secrets that the deployment lists, as
far as the store has them. It can be told from the records under the listed keys in the deployment's own
collection, and from nothing else in the store.

Main statement: `spec_exact`, which also says that two daemons whose stores agree on those secrets build the
same containers, up to their names.
-/
namespace Orchestrator

/-! ## What the store has -/

namespace Store

/-- What the store has for a secret of a deployment: nothing, or a record that may be well formed. -/
def kept? (s : Store) (deployment key : String) : Option (Option Secret) :=
  (s.get? (deployment ++ "-secrets") key).map fun bytes => (decode Secret.ofJson bytes).toOption

/-- The collection of a deployment that has a valid name is called as the deployment is. -/
theorem secretCollection_of_isDeploymentName {name : String} (h : isDeploymentName name = true) :
    secretCollection name = name ++ "-secrets" := by
  rw [← String.toList_inj, toList_secretCollection, toLower_of_isDeploymentName h, String.toList_append]

theorem decode_error {α : Type} {read : Json → Json.Decoded α} {bytes : ByteArray} {e : StoreError}
    (h : decode read bytes = .error e) : e = .undecodable := by
  unfold decode at h
  split at h
  · exact (Except.error.inj h).symm
  · split at h
    · cases h
    · exact (Except.error.inj h).symm

/-- What is answered for a secret is decided by what the store has for it. -/
theorem getSecret_eq (s : Store) {deployment : String} (h : isDeploymentName deployment = true)
    (key : String) : s.getSecret deployment key =
      match s.kept? deployment key with
      | none => .error (.unknownSecret key deployment)
      | some none => .error .undecodable
      | some (some secret) => .ok secret := by
  unfold getSecret decoded? kept?
  rw [secretCollection_of_isDeploymentName h]
  cases s.get? (deployment ++ "-secrets") key with
  | none => rfl
  | some bytes =>
    dsimp only [Option.map_some]
    cases hdecode : decode Secret.ofJson bytes with
    | ok secret => rfl
    | error e =>
      obtain rfl := decode_error hdecode
      rfl

/-- A secret whose record is well formed, if it has one, is there or not known. -/
theorem getSecret_legible {s : Store} {deployment key : String} (h : isDeploymentName deployment = true)
    (hlegible : s.kept? deployment key ≠ some none) : s.getSecret deployment key =
      match (s.kept? deployment key).join with
      | none => .error (.unknownSecret key deployment)
      | some secret => .ok secret := by
  rw [getSecret_eq s h]
  cases hkept : s.kept? deployment key with
  | none => rfl
  | some record =>
    cases record with
    | none => exact absurd hkept hlegible
    | some secret => rfl

end Store

namespace Fleet

open Engine

/-- A secret that a deployment lists and the store has. -/
structure Listed where
  key : String
  /-- The alias that the deployment gives it. -/
  aliasText : String
  secret : Secret

/-- The listed secrets that the store has, in the order of their keys. -/
def listed (s : Store) (d : Deployment) : List Listed :=
  d.secrets.entries.filterMap fun e => (s.kept? d.name e.1).join.map (⟨e.1, e.2, ·⟩)

/-- A variable with this value is set to `shown`: to the value of a listed secret with such an alias, the
one with the smallest key, or to its own value if there is none. -/
def Shows (secrets : List Listed) (value shown : String) : Prop :=
  (∃ l ∈ secrets, l.aliasText = value ∧ shown = l.secret.value ∧
    ∀ l' ∈ secrets, l'.aliasText = value → l.key ≤ l'.key) ∨
  ((∀ l ∈ secrets, l.aliasText ≠ value) ∧ shown = value)

/-- The entry of an environment that has a secret: its own alias without the at signs in front, and its
value. -/
def Listed.entry (l : Listed) : String :=
  String.ofList (l.secret.aliasText.toList.dropWhile (· = '@')) ++ "=" ++ l.secret.value

variable {s : Daemon} {name : String}

/-- How the first secret of a list is found. -/
theorem run_resolve_cons (s : Daemon) (name key aliasText : String) (rest : List (String × String)) :
    (resolve name ((key, aliasText) :: rest)).run.run Daemon.serve s =
      match s.store.getSecret name key with
      | .ok secret =>
        (((resolve name rest).run.run Daemon.serve s).1.map (⟨aliasText, secret⟩ :: ·),
          ((resolve name rest).run.run Daemon.serve s).2)
      | .error (.unknownSecret ..) => (resolve name rest).run.run Daemon.serve s
      | .error e => (.error (.error (.store e)), s) := by
  have hask {β : Type} (next : Except StoreError Secret → Action β) :
      (Task.ask (.secret name key) >>= next).run.run Daemon.serve s
        = (next (s.store.getSecret name key)).run.run Daemon.serve s := rfl
  rw [resolve, hask]
  cases s.store.getSecret name key with
  | ok secret =>
    dsimp only
    rw [ExceptT.run_bind, Program.run_bind]
    obtain ⟨found | found, t⟩ := (resolve name rest).run.run Daemon.serve s
    · rfl
    · rfl
  | error e => cases e <;> rfl

/-- The secrets that are found: those that can be read, each with its alias. -/
def found (s : Store) (name : String) (entries : List (String × String)) : List Resolved :=
  entries.filterMap fun e => (s.getSecret name e.1).toOption.map (⟨e.2, ·⟩)

/-- A secret is there, or it is not known. -/
def Known (s : Store) (name key : String) : Prop :=
  (∃ secret, s.getSecret name key = .ok secret) ∨ s.getSecret name key = .error (.unknownSecret key name)

/-- If every listed secret is there or not known, then those that are there are found. -/
theorem run_resolve_known {entries : List (String × String)} (hknown : ∀ e ∈ entries, Known s.store name e.1) :
    (resolve name entries).run.run Daemon.serve s = (.ok (found s.store name entries), s) := by
  induction entries with
  | nil => rfl
  | cons e rest ih =>
    obtain ⟨key, aliasText⟩ := e
    obtain ⟨hfirst, hrest⟩ := List.forall_mem_cons.1 hknown
    rw [run_resolve_cons, ih hrest, found, found, List.filterMap_cons]
    obtain ⟨secret, hsecret⟩ | hunknown := hfirst
    · rw [hsecret]
      rfl
    · rw [hunknown]
      rfl

/-- A listed secret with a record that is none makes the whole fail. -/
theorem run_resolve_illegible (hname : isDeploymentName name = true) {entries : List (String × String)}
    (hillegible : ∃ e ∈ entries, s.store.kept? name e.1 = some none) :
    ((resolve name entries).run.run Daemon.serve s).1 = .error (.error (.store .undecodable)) := by
  induction entries with
  | nil =>
    obtain ⟨_, hmem, -⟩ := hillegible
    cases hmem
  | cons first rest ih =>
    obtain ⟨e, hmem, he⟩ := hillegible
    rw [run_resolve_cons, Store.getSecret_eq s.store hname]
    rcases List.mem_cons.1 hmem with rfl | hmem
    · rw [he]
    · have hrest := ih ⟨e, hmem, he⟩
      cases s.store.kept? name first.1 with
      | none => exact hrest
      | some record =>
        cases record with
        | none => rfl
        | some secret =>
          -- what was found before the illegible record is lost
          dsimp only
          rw [hrest]
          rfl

/-! ## The environment -/

/-- A listed secret as it is found. -/
def Listed.resolved (l : Listed) : Resolved := ⟨l.aliasText, l.secret⟩

/-- The listed secrets are those that are found. -/
theorem map_resolved_listed {s : Store} {d : Deployment} (hname : isDeploymentName d.name = true)
    (hlegible : ∀ e ∈ d.secrets.entries, s.kept? d.name e.1 ≠ some none) :
    (listed s d).map Listed.resolved = found s d.name d.secrets.entries := by
  rw [listed, List.map_filterMap]
  refine List.filterMap_congr fun e hmem => ?_
  rw [Store.getSecret_legible hname (hlegible e hmem)]
  cases (s.kept? d.name e.1).join <;> rfl

/-- The secrets that are listed stand in the order of their keys. -/
theorem pairwise_listed (s : Store) (d : Deployment) :
    (listed s d).Pairwise fun l l' => l.key < l'.key := by
  refine List.Pairwise.filterMap _ ?_ d.secrets.sorted
  intro e e' hlt l hl l' hl'
  obtain ⟨secret, -, rfl⟩ := Option.map_eq_some_iff.1 hl
  obtain ⟨secret', -, rfl⟩ := Option.map_eq_some_iff.1 hl'
  exact compare_text_eq_lt.1 hlt

/-- The first secret with an alias is the one with the smallest key. -/
theorem shows_substituted {secrets : List Listed} (hsorted : secrets.Pairwise fun l l' => l.key < l'.key)
    (value : String) : Shows secrets value (substituted (secrets.map Listed.resolved) value) := by
  unfold substituted
  rw [List.find?_map]
  cases hfind : secrets.find? ((fun r => decide (r.aliasText = value)) ∘ Listed.resolved) with
  | none =>
    refine .inr ⟨fun l hl heq => ?_, rfl⟩
    have hno := List.find?_eq_none.1 hfind l hl
    exact hno (decide_eq_true heq)
  | some l =>
    -- those before it have other aliases, and those after it larger keys
    obtain ⟨halias, before, after, rfl, hbefore⟩ := List.find?_eq_some_iff_append.1 hfind
    refine .inl ⟨l, List.mem_append_right before List.mem_cons_self, of_decide_eq_true halias, rfl,
      fun l' hl' halias' => ?_⟩
    rcases List.mem_append.1 hl' with hmem | hmem
    · have hno := hbefore l' hmem
      rw [Bool.not_eq_true'] at hno
      exact absurd halias' (of_decide_eq_false hno)
    · rcases List.mem_cons.1 hmem with rfl | hmem
      · exact String.le_refl _
      · have hrest := (List.pairwise_append.1 hsorted).2.1
        exact Std.le_of_lt ((List.pairwise_cons.1 hrest).1 l' hmem)

theorem environment_eq (env : SortedMap String String) (secrets : List Listed) :
    environment env (secrets.map Listed.resolved)
      = (env.entries.map fun e => e.1 ++ "=" ++ substituted (secrets.map Listed.resolved) e.2)
        ++ secrets.map Listed.entry := by
  rw [environment, List.map_map]
  rfl

/-- The name that a container gets. -/
def newName (s : Daemon) (d : Deployment) : String := d.name ++ "-" ++ s.ending (s.names + 1)

/-- What a container is created from, if every listed secret is there or not known. -/
theorem run_spec_known (f : Fleet) {d : Deployment} (hknown : ∀ e ∈ d.secrets.entries, Known s.store d.name e.1) :
    ((f.spec d).run.run Daemon.serve s).1
      = .ok (f.specFor d (newName s d) (environment d.env (found s.store d.name d.secrets.entries))) := by
  unfold spec resolveEnv
  rw [ExceptT.run_bind, Program.run_bind, ExceptT.run_bind, Program.run_bind, run_resolve_known hknown]
  rfl

/-- What a container is created from, if every listed secret that has a record is well formed. -/
theorem run_spec (f : Fleet) {d : Deployment} (hname : isDeploymentName d.name = true)
    (hlegible : ∀ e ∈ d.secrets.entries, s.store.kept? d.name e.1 ≠ some none) :
    ((f.spec d).run.run Daemon.serve s).1 = .ok (f.specFor d (newName s d)
      (environment d.env ((listed s.store d).map Listed.resolved))) := by
  rw [map_resolved_listed hname hlegible]
  apply run_spec_known
  intro e hmem
  rw [Known, Store.getSecret_legible hname (hlegible e hmem)]
  cases (s.store.kept? d.name e.1).join with
  | none => exact .inr rfl
  | some secret => exact .inl ⟨secret, rfl⟩

/-- Nothing is created if some listed secret has a record that is none. -/
theorem run_spec_illegible (f : Fleet) {d : Deployment} (hname : isDeploymentName d.name = true)
    (hillegible : ∃ e ∈ d.secrets.entries, s.store.kept? d.name e.1 = some none) :
    ((f.spec d).run.run Daemon.serve s).1 = .error (.error (.store .undecodable)) := by
  have hresolve := run_resolve_illegible hname hillegible
  unfold spec resolveEnv
  rw [ExceptT.run_bind, Program.run_bind, ExceptT.run_bind, Program.run_bind, hresolve]
  rfl

/-- **What containers get to see of secrets.** A container cannot be described just if a secret that its
deployment lists has a record that is none. If it can, its environment has the variables of the deployment
in the order of their names, with the values of secrets in place of their aliases, and then the listed
secrets that exist, in the order of their keys. Wherever the store has the same for the listed secrets, the
outcome is the same up to the name. -/
theorem spec_exact (f : Fleet) (d : Deployment) (hname : isDeploymentName d.name = true) (s : Daemon) :
    ((∃ e, ((f.spec d).run.run Daemon.serve s).1 = .error e) ↔
      ∃ key ∈ d.secrets.keys, s.store.kept? d.name key = some none) ∧
    (∀ spec, ((f.spec d).run.run Daemon.serve s).1 = .ok spec →
      ∃ plain, List.Forall₂ (fun e text => ∃ shown, Shows (listed s.store d) e.2 shown ∧
          text = e.1 ++ "=" ++ shown) d.env.entries plain ∧
        spec = f.specFor d (newName s d) (plain ++ (listed s.store d).map Listed.entry)) ∧
    ∀ t : Daemon, (∀ key ∈ d.secrets.keys, t.store.kept? d.name key = s.store.kept? d.name key) →
      ((f.spec d).run.run Daemon.serve t).1
        = ((f.spec d).run.run Daemon.serve s).1.map fun spec => { spec with name := newName t d } := by
  by_cases hillegible : ∃ e ∈ d.secrets.entries, s.store.kept? d.name e.1 = some none
  · have hfails := run_spec_illegible f hname hillegible
    refine ⟨⟨fun _ => ?_, fun _ => ⟨_, hfails⟩⟩, fun spec hspec => ?_, fun t hsame => ?_⟩
    · obtain ⟨e, hmem, he⟩ := hillegible
      exact ⟨e.1, List.mem_map_of_mem hmem, he⟩
    · rw [hfails] at hspec
      cases hspec
    · obtain ⟨e, hmem, he⟩ := hillegible
      rw [hfails]
      exact run_spec_illegible f hname ⟨e, hmem, (hsame e.1 (List.mem_map_of_mem hmem)).trans he⟩
  · have hlegible : ∀ e ∈ d.secrets.entries, s.store.kept? d.name e.1 ≠ some none :=
      fun e hmem he => hillegible ⟨e, hmem, he⟩
    have hruns := run_spec f hname hlegible
    refine ⟨⟨fun ⟨e, he⟩ => ?_, fun ⟨key, hkey, hkept⟩ => ?_⟩, fun spec hspec => ?_, fun t hsame => ?_⟩
    · rw [hruns] at he
      cases he
    · obtain ⟨e, hmem, rfl⟩ := List.mem_map.1 hkey
      exact absurd hkept (hlegible e hmem)
    · rw [hruns] at hspec
      obtain rfl := Except.ok.inj hspec
      refine ⟨_, ?_, congrArg (f.specFor d (newName s d)) (environment_eq d.env (listed s.store d))⟩
      rw [List.forall₂_map_right_iff, List.forall₂_same]
      intro e _
      exact ⟨_, shows_substituted (pairwise_listed s.store d) e.2, rfl⟩
    · have hlegible' : ∀ e ∈ d.secrets.entries, t.store.kept? d.name e.1 ≠ some none := by
        intro e hmem
        rw [hsame e.1 (List.mem_map_of_mem hmem)]
        exact hlegible e hmem
      have hlisted : listed t.store d = listed s.store d := by
        refine List.filterMap_congr fun e hmem => ?_
        rw [hsame e.1 (List.mem_map_of_mem hmem)]
      rw [hruns, run_spec f hname hlegible', hlisted]
      rfl

/-- It lists two secrets, and has a variable with the alias of one of them. -/
def web : Deployment :=
  { Deployment.new "web" "nginx" with
    env := .ofList [("MODE", "plain"), ("KEY", "@TOKEN")]
    secrets := .ofList [("token", "@TOKEN"), ("cert", "@CERT")] }

/-- One of the two is in the store, beside one of another deployment. -/
def guarded : Daemon where
  store := (Store.new.put "api-secrets" "cert" ⟨#[255]⟩).put "web-secrets" "token"
    (Store.encode (Secret.toJson ⟨"token", "s3cret", "@TOKEN"⟩))

theorem kept?_guarded : guarded.store.kept? "web" "cert" = none ∧
    guarded.store.kept? "web" "token" = some (some ⟨"token", "s3cret", "@TOKEN"⟩) := by
  unfold Store.kept? guarded
  rw [Store.get?_put, if_neg (by decide), Store.get?_put, if_neg (by decide), Store.get?_put,
    if_pos ⟨rfl, rfl⟩, Option.map_some, Store.decode_secret]
  exact ⟨rfl, rfl⟩

/-- It is seen under its name, and in place of its alias. -/
theorem spec_exact_guarded : isDeploymentName web.name = true ∧
    ∃ spec, ((({} : Fleet).spec web).run.run Daemon.serve guarded).1 = .ok spec ∧
      spec.env = ["KEY=s3cret", "MODE=plain", "TOKEN=s3cret"] := by
  have hname : isDeploymentName web.name = true := by decide
  have hkeys : web.secrets.keys = ["cert", "token"] := by decide +kernel
  obtain ⟨hcert, htoken⟩ := kept?_guarded
  obtain ⟨hfails, henv, -⟩ := spec_exact {} web hname guarded
  refine ⟨hname, ?_⟩
  cases hrun : ((({} : Fleet).spec web).run.run Daemon.serve guarded).1 with
  | error e =>
    obtain ⟨key, hkey, hkept⟩ := hfails.1 ⟨e, hrun⟩
    rw [hkeys] at hkey
    obtain rfl | rfl : key = "cert" ∨ key = "token" := by simpa using hkey
    · cases hcert.symm.trans hkept
    · cases htoken.symm.trans hkept
  | ok spec =>
    obtain ⟨plain, hplain, rfl⟩ := henv spec hrun
    have hlisted : listed guarded.store web = [⟨"token", "@TOKEN", ⟨"token", "s3cret", "@TOKEN"⟩⟩] := by
      have hentries : web.secrets.entries = [("cert", "@CERT"), ("token", "@TOKEN")] := by decide +kernel
      have hweb : web.name = "web" := rfl
      rw [listed, hentries, hweb, List.filterMap_cons, hcert, List.filterMap_cons, htoken]
      rfl
    have hvariables : web.env.entries = [("KEY", "@TOKEN"), ("MODE", "plain")] := by decide +kernel
    rw [hlisted, hvariables] at hplain
    obtain ⟨_, _, ⟨key, hkey, rfl⟩, hsecond, rfl⟩ := List.forall₂_cons_left_iff.1 hplain
    obtain ⟨_, _, ⟨mode, hmode, rfl⟩, hrest, rfl⟩ := List.forall₂_cons_left_iff.1 hsecond
    obtain rfl := List.forall₂_nil_left_iff.1 hrest
    have hkeyShown : key = "s3cret" := by
      obtain ⟨l, hl, -, rfl, -⟩ | ⟨hnone, -⟩ := hkey
      · rw [List.mem_singleton.1 hl]
      · exact absurd rfl (hnone _ List.mem_cons_self)
    have hmodeShown : mode = "plain" := by
      obtain ⟨l, hl, halias, -⟩ | ⟨-, rfl⟩ := hmode
      · rw [List.mem_singleton.1 hl] at halias
        exact absurd halias (by decide)
      · rfl
    refine ⟨_, rfl, ?_⟩
    rw [hlisted, hkeyShown, hmodeShown]
    rfl

end Fleet

end Orchestrator
