import Orchestrator.Job.Attempt
import Orchestrator.Proofs.Daemon.Calls

/-!
# One attempt of a teardown beside others

Against an engine in memory an attempt to tear a deployment down always succeeds, whatever others do,
and leaves none of the deployment's containers. Main statement: `attempt_at`.
-/
namespace Orchestrator.Teardown

open Engine

variable {d : String} {f : Fleet} {terms : Option Terms} {since : Nat} {net : Option Network}
  {config : Deployment}

/-- The deployment's containers are those that were listed, up to their appearance. -/
def Listed (d : String) (f : Fleet) (terms : Option Terms) (since : Nat) (net : Option Network)
    (config : Deployment) (t : Teardown) (s : Daemon) : Prop :=
  t.config = config ∧ ∃ L, At d f terms since net L s ∧
    L.map Created.id = t.current.map Container.id

theorem stopContainers_at (t : Teardown) (s : Daemon) (h : Listed d f terms since net config t s) :
    stopContainers.Meets (shared d terms)
      (fun _ t' u => Listed d f terms since net config t' u) (fun _ _ _ => False) t s := by
  obtain ⟨hconfig, L, hat, hids⟩ := h
  unfold stopContainers
  rw [StepAction.meets_bind, StepAction.meets_get]
  refine (StepAction.meets_forM (fun left t' u => t' = t ∧ ∃ stopped rest,
    At d f terms since net (stopped ++ rest) u ∧ rest.map Created.id = left.map Container.id ∧
      (stopped ++ rest).map Created.id = t.current.map Container.id) ?_
    ⟨rfl, [], L, hat, hids, hids⟩).mono (fun _ t' u h => ?_) fun _ _ _ h => h
  · rintro x left t' s ⟨rfl, stopped, rest, hat, hleft, hall⟩
    obtain ⟨c, rest, rfl⟩ := List.exists_cons_of_ne_nil (show rest ≠ [] by rintro rfl; cases hleft)
    obtain ⟨hid, hleft⟩ := List.cons.inj hleft
    refine StepAction.meets_during.2 ((stopIfRunning_at stopped hid.symm hat).mono
      (fun _ u ⟨c', hid', hu⟩ => ⟨rfl, stopped ++ [c'], rest, by simpa using hu, hleft, ?_⟩)
      fun _ _ h => h)
    simpa [hid'] using hall
  · obtain ⟨rfl, stopped, rest, hu, hnone, hall⟩ := h
    exact ⟨hconfig, _, hu, hall⟩

theorem removeContainers_at (t : Teardown) (s : Daemon)
    (h : Listed d f terms since net config t s) :
    removeContainers.Meets (shared d terms)
      (fun _ t' u => t'.config = config ∧ At d f terms since net [] u) (fun _ _ _ => False) t s := by
  obtain ⟨hconfig, L, hat, hids⟩ := h
  unfold removeContainers
  rw [StepAction.meets_bind, StepAction.meets_get]
  refine (StepAction.meets_forM (fun left t' u => t'.config = config ∧ ∃ rest,
    At d f terms since net rest u ∧ rest.map Created.id = left.map Container.id) ?_
    ⟨hconfig, L, hat, hids⟩).mono (fun _ t' u h => ?_) fun _ _ _ h => h
  · rintro x left t' s ⟨hconfig, rest, hat, hleft⟩
    obtain ⟨c, rest, rfl⟩ := List.exists_cons_of_ne_nil (show rest ≠ [] by rintro rfl; cases hleft)
    obtain ⟨hid, hleft⟩ := List.cons.inj hleft
    exact StepAction.meets_during.2 ((removeIfPresent_at [] hid.symm hat).mono
      (fun _ u hu => ⟨hconfig, rest, hu, hleft⟩) fun _ _ h => h)
  · obtain ⟨hconfig, rest, hu, hnone⟩ := h
    obtain rfl : rest = [] := by simpa using hnone
    exact ⟨hconfig, hu⟩

theorem workflow_at {job : Job} {current : List Container} {s : Daemon} {old : List Created}
    (hd : config.name = d) (h : At d f terms since net old s) :
    (workflow.runObserved job.announceStep ⟨config, current⟩).Meets (shared d terms)
      (fun r u => r.1 = .ok () ∧ r.2.config = config ∧ At d f terms since net [] u) s := by
  refine step_at (Listed d f terms since net config) (fun _ _ => False) h (fun t ht => ?_)
    (fun t₁ s₁ h₁ => ?_) fun _ _ _ h => h.elim
  · unfold fetchCurrent
    rw [StepAction.meets_bind, StepAction.meets_get, StepAction.meets_bind, hd]
    refine StepAction.meets_during.2 ((list_at ht).mono (fun l u ⟨hl, hu⟩ => ?_) fun _ _ h => h)
    exact ⟨rfl, old, hu, by simp [hl, Function.comp_def, Created.id]⟩
  obtain ⟨hconfig₁, L₁, hat₁, hids₁⟩ := h₁
  refine step_at (Listed d f terms since net config) (fun _ _ => False) hat₁
    (fun t ht => stopContainers_at t₁ t ⟨hconfig₁, L₁, ht, hids₁⟩) (fun t₂ s₂ h₂ => ?_)
    fun _ _ _ h => h.elim
  obtain ⟨hconfig₂, L₂, hat₂, hids₂⟩ := h₂
  exact step_at (fun t u => t.config = config ∧ At d f terms since net [] u) (fun _ _ => False) hat₂
    (fun t ht => removeContainers_at t₂ t ⟨hconfig₂, L₂, ht, hids₂⟩)
    (fun t₃ s₃ h₃ => ⟨rfl, h₃⟩) fun _ _ _ h => h.elim

/-- An attempt succeeds and leaves no containers of the deployment. The job keeps everything but its
list of containers. -/
theorem attempt_at {job : Job} {current : List Container} {s : Daemon} {old : List Created}
    (hjob : job.work = .delete config current) (h : At config.name f terms since net old s) :
    (job.attempt f).Meets (shared config.name terms)
      (fun r u => r.1 = .ok () ∧
        (∃ current', r.2 = { job with work := .delete config current' }) ∧
        At config.name f terms since net [] u) s := by
  unfold Job.attempt
  rw [hjob]
  dsimp only
  rw [Program.meets_bind]
  refine (workflow_at rfl h).mono fun r u ⟨hok, hconfig, hu⟩ => ?_
  obtain ⟨outcome, ⟨config', current'⟩⟩ := r
  obtain rfl : config' = config := hconfig
  exact ⟨hok, ⟨current', rfl⟩, hu⟩

end Orchestrator.Teardown
