import Mathlib.Data.List.Induction
import Orchestrator.Proofs.Store.Activity
import Orchestrator.Proofs.Store.Deployments
import Orchestrator.Store.Database

/-!
# What is saved after any history

A database is written to by saving and deleting deployments, by what is done to secrets and records of
finished jobs, and is closed and opened again. Whatever the history, its listing gives one deployment for
each name whose last accepted save was not followed by a deletion, just as that save gave it back, in
the order of names, and looking a name up agrees with the listing. Every saved deployment has a name and
an image, and nothing is left to fill in. The main statement is `saved_exactly`.
-/
namespace Orchestrator

/-! ## Complete deployments -/

namespace Deployment

/-- A deployment that can be rolled out as it stands: its name is one, nothing that its image is pulled
by is blank, it has replicas, and nothing is left to fill in. -/
structure Complete (d : Deployment) : Prop where
  name : validateName d.name = .ok ()
  image : Text.isBlankText d.image = false
  registry : Text.isBlankText d.registry = false
  tag : Text.isBlankText d.tag = false
  scale : 1 ≤ d.scale
  filled : d.withDefaults = d

variable {d : Deployment}

theorem registry_withDefaults (d : Deployment) : Text.isBlankText d.withDefaults.registry = false := by
  rw [withDefaults]
  dsimp only
  split
  · decide
  · rename_i h
    simpa using h

theorem tag_withDefaults (d : Deployment) : Text.isBlankText d.withDefaults.tag = false := by
  rw [withDefaults]
  dsimp only
  split
  · decide
  · rename_i h
    simpa using h

theorem scale_withDefaults (d : Deployment) : d.withDefaults.scale ≠ 0 := by
  rw [withDefaults]
  dsimp only
  split
  · decide
  · rename_i h
    exact h

/-- What is filled in is not filled in again. -/
theorem withDefaults_eq (hregistry : Text.isBlankText d.registry = false)
    (htag : Text.isBlankText d.tag = false) (hscale : d.scale ≠ 0) : d.withDefaults = d := by
  rw [withDefaults, if_neg (by simp [hregistry]), if_neg (by simp [htag]), if_neg hscale]

/-- A deployment that is valid with its blanks filled in is complete then. -/
theorem complete_withDefaults {u : Unit} (h : d.withDefaults.validate = .ok u) :
    d.withDefaults.Complete := by
  have hscale := d.scale_withDefaults
  refine ⟨?_, ?_, d.registry_withDefaults, d.tag_withDefaults, ?_,
    withDefaults_eq d.registry_withDefaults d.tag_withDefaults hscale⟩
  · rw [validateName, named_of_validate h, if_pos rfl]
  · unfold validate at h
    split at h
    · cases h
    · split at h
      · cases h
      · rename_i hblank
        simpa using hblank
  · rw [UInt32.le_iff_toNat_le]
    have : d.withDefaults.scale.toNat ≠ 0 := fun hzero => hscale (UInt32.toNat_inj.1 hzero)
    exact Nat.one_le_iff_ne_zero.2 this

end Deployment

/-! ## Listing and looking up -/

namespace Store

variable {s : Store} {saved : List Deployment}

/-- Saved deployments stand in the order of their names. -/
theorem Holds.pairwise (h : s.Holds saved) : saved.Pairwise fun a b => a.name < b.name := by
  have hsorted := (s.records deploymentCollection).sorted
  rw [h.entries, List.pairwise_map] at hsorted
  exact hsorted.imp compare_text_eq_lt.1

theorem lookup_savedEntry (name : String) (saved : List Deployment) :
    SortedMap.lookup name (saved.map savedEntry)
      = (saved.find? fun d => d.name = name).map fun d => encode d.toJson := by
  induction saved with
  | nil => rfl
  | cons d saved ih =>
    simp only [List.map_cons, savedEntry, SortedMap.lookup, List.find?_cons,
      Std.LawfulEqOrd.compare_eq_iff_eq]
    by_cases hname : name = d.name
    · simp [hname]
    · have hother : d.name ≠ name := fun h => hname h.symm
      simp only [hname, if_false, hother, decide_false]
      exact ih

/-- A name is looked up among the saved deployments. -/
theorem Holds.findDeployment (h : s.Holds saved) (name : String) :
    s.findDeployment name = .ok (saved.find? fun d => d.name = name) := by
  have hget : s.get? deploymentCollection name
      = (saved.find? fun d => d.name = name).map fun d => encode d.toJson := by
    rw [get?, SortedMap.find?, h.entries, lookup_savedEntry]
  unfold Store.findDeployment decoded?
  rw [hget]
  cases saved.find? fun d => d.name = name with
  | none => rfl
  | some d =>
    simp only [Option.map_some, decode_deployment]
    rfl

theorem Holds.getDeployment (h : s.Holds saved) (name : String) :
    s.getDeployment name = match saved.find? fun d => d.name = name with
      | some d => .ok d
      | none => .error (.unknownDeployment name) := by
  unfold Store.getDeployment
  rw [h.findDeployment name]
  cases saved.find? fun d => d.name = name <;> rfl

/-- What a save gives back is complete. -/
theorem complete_of_saveDeployment {given d : Deployment} (h : (s.saveDeployment given).1 = .ok d) :
    d.Complete := by
  unfold saveDeployment at h
  dsimp only at h
  split at h
  · cases h
  · rename_i u hvalid
    obtain rfl := Except.ok.inj h
    exact Deployment.complete_withDefaults hvalid

end Store

/-! ## Histories -/

namespace Database

/-- What is done to a database. -/
inductive Operation where
  | save (given : Deployment)
  | delete (name : String)
  | addSecret (deployment key value : String)
  | deleteSecret (deployment key : String)
  | deleteSecrets (deployment : String)
  | record (activity : Activity)
  /-- The database is closed and opened again. -/
  | reopen
  deriving DecidableEq

/-- The database after an operation. -/
def perform (db : Database) : Operation → Database
  | .save given => { db with store := (db.store.saveDeployment given).2 }
  | .delete name => { db with store := (db.store.deleteDeployment name).2 }
  | .addSecret deployment key value =>
    { db with store := (db.store.addSecret deployment key value).2 }
  | .deleteSecret deployment key => { db with store := (db.store.deleteSecret deployment key).2 }
  | .deleteSecrets deployment => { db with store := (db.store.deleteSecrets deployment).2 }
  | .record activity => { db with store := db.store.recordActivity activity }
  | .reopen => db.reopen

/-- The database after a history. -/
def after (db : Database) (history : List Operation) : Database := history.foldl perform db

@[simp] theorem after_concat (db : Database) (history : List Operation) (op : Operation) :
    db.after (history ++ [op]) = (db.after history).perform op := by
  simp [after]

variable {db : Database} {history : List Operation} {op : Operation} {d : Deployment}

/-- The operation saves a deployment, and gives it back as it is saved. -/
def Saves (db : Database) (op : Operation) (d : Deployment) : Prop :=
  ∃ given, op = .save given ∧ (db.store.saveDeployment given).1 = .ok d

/-- The operation deletes what is saved under a name, or puts something else there. -/
def Supersedes (db : Database) (op : Operation) (name : String) : Prop :=
  op = .delete name ∨ ∃ d, db.Saves op d ∧ d.name = name

/-- The last save under the deployment's name gave the deployment back, and no deletion of the name
followed. -/
def LastSaved (db : Database) (history : List Operation) (d : Deployment) : Prop :=
  ∃ before op later, history = before ++ op :: later ∧ (db.after before).Saves op d ∧
    ∀ between op' rest, later = between ++ op' :: rest →
      ¬ (db.after (before ++ op :: between)).Supersedes op' d.name

theorem not_lastSaved_nil : ¬ db.LastSaved [] d := by
  rintro ⟨before, op, later, hnil, -⟩
  cases before <;> cases hnil

/-- After one more operation, what was saved last is what it saves, or what was saved before and is not
superseded. -/
theorem lastSaved_concat : db.LastSaved (history ++ [op]) d ↔
    (db.after history).Saves op d ∨
      db.LastSaved history d ∧ ¬ (db.after history).Supersedes op d.name := by
  constructor
  · rintro ⟨before, first, later, hsplit, hsaves, hkept⟩
    rcases List.eq_nil_or_concat later with rfl | ⟨later, last, rfl⟩
    · obtain ⟨rfl, hop⟩ := List.append_inj' hsplit rfl
      obtain rfl := (List.cons.inj hop).1
      exact .inl hsaves
    · have hsplit' : history ++ [op] = (before ++ first :: later) ++ [last] := by
        rw [hsplit]
        simp
      obtain ⟨rfl, hop⟩ := List.append_inj' hsplit' rfl
      obtain rfl := (List.cons.inj hop).1
      refine .inr ⟨⟨before, first, later, rfl, hsaves, fun between op' rest hlater => ?_⟩, ?_⟩
      · exact hkept between op' (rest ++ [op]) (by simp [hlater])
      · exact hkept later op [] (by simp)
  · rintro (hsaves | ⟨⟨before, first, later, rfl, hsaves, hkept⟩, hlast⟩)
    · exact ⟨history, op, [], rfl, hsaves, fun between op' rest hlater => by simp at hlater⟩
    · refine ⟨before, first, later ++ [op], by simp, hsaves, fun between op' rest hlater => ?_⟩
      rcases List.eq_nil_or_concat rest with rfl | ⟨rest, last, rfl⟩
      · obtain ⟨rfl, hop⟩ := List.append_inj' hlater rfl
        obtain rfl := (List.cons.inj hop).1
        exact hlast
      · have hlater' : later ++ [op] = (between ++ op' :: rest) ++ [last] := by
          rw [hlater]
          simp
        obtain ⟨hlater', -⟩ := List.append_inj' hlater' rfl
        exact hkept between op' rest hlater'

theorem LastSaved.complete (h : db.LastSaved history d) : d.Complete := by
  obtain ⟨before, op, later, -, ⟨given, -, hsaved⟩, -⟩ := h
  exact Store.complete_of_saveDeployment hsaved

/-! ## What is held -/

/-- A history in which nothing is lost by closing the database. -/
def Lasts (medium : Medium) (history : List Operation) : Prop :=
  medium = .file ∨ .reopen ∉ history

instance (medium : Medium) (history : List Operation) : Decidable (Lasts medium history) :=
  inferInstanceAs (Decidable (_ ∨ _))

theorem medium_reopen (db : Database) : db.reopen.medium = db.medium := by
  unfold reopen
  split <;> rfl

theorem medium_after (db : Database) (history : List Operation) :
    (db.after history).medium = db.medium := by
  induction history using List.reverseRecOn with
  | nil => rfl
  | append_singleton history op ih =>
    rw [after_concat, ← ih]
    cases op with
    | reopen => exact medium_reopen _
    | _ => rfl

/-- Does the operation neither save nor delete deployments? -/
def Operation.isAside : Operation → Bool
  | .save _ | .delete _ => false
  | _ => true

/-- Such an operation leaves deployments as they are. -/
theorem held_of_aside {saved : List Deployment} (h : (db.perform op).store.Holds saved)
    (haside : op.isAside = true) :
    ∃ saved', (db.perform op).store.Holds saved' ∧
      ∀ e, e ∈ saved' ↔ db.Saves op e ∨ e ∈ saved ∧ ¬ db.Supersedes op e.name := by
  have hnone : ∀ e, ¬ db.Saves op e := by
    rintro e ⟨given, rfl, -⟩
    cases haside
  refine ⟨saved, h, fun e => ⟨fun he => .inr ⟨he, ?_⟩, ?_⟩⟩
  · rintro (rfl | ⟨e', hsaves, -⟩)
    · cases haside
    · exact hnone e' hsaves
  · rintro (hsaves | ⟨he, -⟩)
    · exact absurd hsaves (hnone e)
    · exact he

/-- A save that is accepted puts what it gives back in the place of what had its name, and one that is
refused changes nothing. -/
theorem held_save {saved : List Deployment} (h : db.store.Holds saved) (given : Deployment) :
    ∃ saved', (db.perform (.save given)).store.Holds saved' ∧
      ∀ e, e ∈ saved' ↔
        db.Saves (.save given) e ∨ e ∈ saved ∧ ¬ db.Supersedes (.save given) e.name := by
  have hsaves (e : Deployment) : db.Saves (.save given) e ↔ (db.store.saveDeployment given).1 = .ok e := by
    constructor
    · rintro ⟨_, hop, hsaved⟩
      obtain rfl := Operation.save.inj hop
      exact hsaved
    · exact fun hsaved => ⟨given, rfl, hsaved⟩
  have hsupersedes (name : String) : db.Supersedes (.save given) name ↔
      ∃ d, (db.store.saveDeployment given).1 = .ok d ∧ d.name = name := by
    constructor
    · rintro (hop | ⟨d, hsaved, hname⟩)
      · cases hop
      · exact ⟨d, (hsaves d).1 hsaved, hname⟩
    · rintro ⟨d, hsaved, hname⟩
      exact .inr ⟨d, (hsaves d).2 hsaved, hname⟩
  obtain ⟨e, hrefused⟩ | ⟨haccepted, saved', hsaved', hmem⟩ := h.saveDeployment given
  · refine ⟨saved, ?_, fun e' => ?_⟩
    · simp only [perform, hrefused]
      exact h
    · rw [hsaves, hsupersedes, hrefused]
      simp
  · refine ⟨saved', hsaved', fun e => ?_⟩
    rw [hmem e, hsaves, hsupersedes, haccepted]
    -- defaults leave the name as it is given
    have hname : given.withDefaults.name = given.name := rfl
    simp [hname, eq_comm]

theorem held_delete {saved : List Deployment} (h : db.store.Holds saved) (name : String) :
    ∃ saved', (db.perform (.delete name)).store.Holds saved' ∧
      ∀ e, e ∈ saved' ↔
        db.Saves (.delete name) e ∨ e ∈ saved ∧ ¬ db.Supersedes (.delete name) e.name := by
  have hnone : ∀ e, ¬ db.Saves (.delete name) e := by
    rintro e ⟨given, hop, -⟩
    cases hop
  refine ⟨_, h.deleteDeployment name, fun e => ?_⟩
  rw [List.mem_filter, decide_eq_true_iff]
  constructor
  · rintro ⟨he, hname⟩
    refine .inr ⟨he, ?_⟩
    rintro (hop | ⟨e', hsaves, -⟩)
    · exact hname (Operation.delete.inj hop).symm
    · exact hnone e' hsaves
  · rintro (hsaves | ⟨he, hkept⟩)
    · exact absurd hsaves (hnone e)
    · exact ⟨he, fun hname => hkept (.inl (hname ▸ rfl))⟩

/-- What is held after an operation is what it saves, and what was held and is not superseded. -/
theorem held_perform {saved : List Deployment} (h : db.store.Holds saved) (hlasts : Lasts db.medium [op]) :
    ∃ saved', (db.perform op).store.Holds saved' ∧
      ∀ e, e ∈ saved' ↔ db.Saves op e ∨ e ∈ saved ∧ ¬ db.Supersedes op e.name := by
  cases op with
  | save given => exact held_save h given
  | delete name => exact held_delete h name
  | addSecret deployment key value => exact held_of_aside (h.addSecret deployment key value) rfl
  | deleteSecret deployment key => exact held_of_aside (h.deleteSecret deployment key) rfl
  | deleteSecrets deployment => exact held_of_aside (h.deleteSecrets deployment) rfl
  | record activity => exact held_of_aside (h.recordActivity activity) rfl
  | reopen =>
    have hfile : db.reopen = db := by
      rcases hlasts with hmedium | hno
      · unfold reopen
        rw [hmedium]
      · simp at hno
    refine held_of_aside ?_ rfl
    rw [perform, hfile]
    exact h

/-- After a history the store holds what was saved last. -/
theorem held_after {medium : Medium} (hlasts : Lasts medium history) :
    ∃ saved, ((⟨medium, .new⟩ : Database).after history).store.Holds saved ∧
      ∀ e, e ∈ saved ↔ (⟨medium, .new⟩ : Database).LastSaved history e := by
  induction history using List.reverseRecOn with
  | nil =>
    exact ⟨[], Store.holds_new, fun e => iff_of_false List.not_mem_nil not_lastSaved_nil⟩
  | append_singleton history op ih =>
    have hbefore : Lasts medium history := hlasts.imp_right fun h hmem => h (List.mem_append_left _ hmem)
    have hlast : Lasts ((⟨medium, .new⟩ : Database).after history).medium [op] := by
      rw [medium_after]
      exact hlasts.imp_right fun h hmem => h (List.mem_append_right _ hmem)
    obtain ⟨saved, hholds, hmem⟩ := ih hbefore
    obtain ⟨saved', hholds', hmem'⟩ := held_perform hholds hlast
    refine ⟨saved', ?_, fun e => ?_⟩
    · rw [after_concat]
      exact hholds'
    · rw [hmem' e, hmem e, lastSaved_concat]

/-- After any history the listing gives, in the order of names, exactly what was saved last under each
name and not deleted, all of it complete; looking a name up agrees with the listing; and a save that is
refused changes nothing. -/
theorem saved_exactly (medium : Medium) (history : List Operation) (hlasts : Lasts medium history) :
    ∃ saved, ((⟨medium, .new⟩ : Database).after history).store.deployments = .ok saved ∧
      saved.Pairwise (fun a b => a.name < b.name) ∧
      (∀ d, d ∈ saved ↔ (⟨medium, .new⟩ : Database).LastSaved history d) ∧
      (∀ d ∈ saved, d.Complete) ∧
      (∀ name, ((⟨medium, .new⟩ : Database).after history).store.findDeployment name
        = .ok (saved.find? fun d => d.name = name)) ∧
      (∀ name, ((⟨medium, .new⟩ : Database).after history).store.getDeployment name
        = match saved.find? fun d => d.name = name with
          | some d => .ok d
          | none => .error (.unknownDeployment name)) ∧
      ∀ given e, (((⟨medium, .new⟩ : Database).after history).store.saveDeployment given).1 = .error e →
        (⟨medium, .new⟩ : Database).after (history ++ [.save given])
          = (⟨medium, .new⟩ : Database).after history := by
  obtain ⟨saved, hholds, hmem⟩ := held_after hlasts
  refine ⟨saved, hholds.deployments, hholds.pairwise, hmem, fun d hd => ((hmem d).1 hd).complete,
    hholds.findDeployment, hholds.getDeployment, fun given e hrefused => ?_⟩
  rw [after_concat, perform, Store.saveDeployment_refused hrefused]

/-- Two deployments are saved, one of them without replicas, the other is deleted, and the file is closed
and opened again. -/
def reopening : List Operation :=
  [.save (Deployment.new "api" "nginx"), .save { Deployment.new "web" "nginx" with scale := 0 },
    .delete "api", .reopen]

theorem saved_exactly_reopening : Lasts .file reopening ∧
    ∃ saved, ((⟨.file, .new⟩ : Database).after reopening).store.deployments = .ok saved ∧
      Deployment.new "web" "nginx" ∈ saved ∧ ∀ d ∈ saved, d.Complete := by
  have hlasts : Lasts .file reopening := .inl rfl
  obtain ⟨saved, hlisted, -, hmem, hcomplete, -⟩ := saved_exactly .file reopening hlasts
  refine ⟨hlasts, saved, hlisted, (hmem _).2 ?_, hcomplete⟩
  refine ⟨[.save (Deployment.new "api" "nginx")], _, [.delete "api", .reopen], rfl, ⟨_, rfl, rfl⟩, ?_⟩
  -- neither of the later operations saves anything, and the deletion is of another name
  intro between op' rest hlater hsupersedes
  have hop : op' ∈ [Operation.delete "api", .reopen] := by
    rw [hlater]
    simp
  rcases List.mem_pair.1 hop with rfl | rfl
  · rcases hsupersedes with hdelete | ⟨d, ⟨given, hsave, -⟩, -⟩
    · exact absurd (Operation.delete.inj hdelete) (by decide)
    · cases hsave
  · rcases hsupersedes with hdelete | ⟨d, ⟨given, hsave, -⟩, -⟩
    · cases hdelete
    · cases hsave

end Database

end Orchestrator
