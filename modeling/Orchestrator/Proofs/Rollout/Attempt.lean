import Orchestrator.Job.Attempt
import Orchestrator.Proofs.Daemon.Creation

/-!
# One attempt of a rollout beside others

What an attempt leaves of its deployment's containers, whatever it found and whatever others do. An
attempt that succeeds leaves exactly `scale` new replicas, all of them running; under `Terms` an
attempt fails only where a secret cannot be read, and then it has changed nothing.

Each step of the workflow has its condition, and each loop its invariant on what is left of the list:
`Making` for the replicas still to be made, `Launching` for those still to be started, `Replacing` for
the old containers still there. Main statement: `attempt_at`.
-/
namespace Orchestrator.Rollout

open Engine

variable {d : String} {f : Fleet} {terms : Option Terms} {since : Nat} {config : Deployment}
  {net : Option Network} {old : List Created}

/-- A new replica: younger than a number of containers, in the known network, and with the
environment that the terms determine. -/
def Fresh (f : Fleet) (terms : Option Terms) (since : Nat) (config : Deployment)
    (net : Option Network) (state : ContainerState) (c : Created) : Prop :=
  Newer since c ∧ ∃ n ∈ net, ∃ env, Replica f config n env state c ∧
    ∀ k ∈ terms, k.env config = .ok env

theorem Fresh.inState {state : ContainerState} {c : Created}
    (h : Fresh f terms since config net state c) (state' : ContainerState) :
    Fresh f terms since config net state' (c.map (Container.inState state')) := by
  obtain ⟨hnewer, n, hn, env, hreplica, henv⟩ := h
  exact ⟨hnewer, n, hn, env, hreplica.inState state', henv⟩

theorem Fresh.state_eq {state : ContainerState} {c : Created}
    (h : Fresh f terms since config net state c) : c.container.state = state := by
  obtain ⟨-, n, -, env, ⟨name, id, now, rfl⟩, -⟩ := h
  rfl

/-- An attempt may fail: under terms it has changed nothing then, and a secret was needed that cannot
be read. -/
def Stuck (d : String) (f : Fleet) (terms : Option Terms) (since : Nat) (config : Deployment)
    (old : List Created) (r : Rollout) (s : Daemon) : Prop :=
  r.config = config ∧ ∃ net L, At d f terms since net L s ∧
    ∀ k ∈ terms, L = old ∧ config.scale.toNat ≠ 0 ∧ ∃ e, k.env config = .error e

/-! ## Creating -/

/-- Some new replicas are made, and the creation of `left` more is still to come. -/
def Making (d : String) (f : Fleet) (terms : Option Terms) (since : Nat) (config : Deployment)
    (old : List Created) (left : Nat) (r : Rollout) (s : Daemon) : Prop :=
  ∃ net made, At d f terms since net (old ++ made) s ∧
    r = ⟨config, old.map Created.container, made.map Created.container⟩ ∧
    made.length + left = config.scale.toNat ∧
    ∀ c ∈ made, Fresh f terms since config net .created c

theorem createMany_at (hd : config.name = d) (left : Nat) (r : Rollout) (s : Daemon)
    (h : Making d f terms since config old left r s) :
    (createMany f left).Meets (shared d terms)
      (fun _ r' u => Making d f terms since config old 0 r' u)
      (fun _ r' u => Stuck d f terms since config old r' u) r s := by
  induction left generalizing r s with
  | zero => exact h
  | succ left ih =>
    obtain ⟨net, made, hat, rfl, hlen, hmade⟩ := h
    unfold createMany
    rw [StepAction.meets_bind, StepAction.meets_get, StepAction.meets_bind, StepAction.meets_during]
    refine (create_at hd hat).mono (fun x u ⟨n, c, env, hn, hu, hx, hreplica, hnewer, henv⟩ => ?_)
      fun _ u ⟨net', L', hu, hfail⟩ => ⟨rfl, net', L', hu, fun k hk => ?_⟩
    · subst hx
      rw [StepAction.meets_bind, StepAction.meets_modify]
      refine ih _ _ ⟨some n, made ++ [c], by simpa using hu, by simp, by simp; omega, ?_⟩
      intro c' hc'
      rcases List.mem_append.1 hc' with hc' | hc'
      · obtain ⟨hnewer', n', hn', rest⟩ := hmade c' hc'
        exact ⟨hnewer', n', Option.mem_some.2 (hn n' hn'), rest⟩
      · obtain rfl := List.mem_singleton.1 hc'
        exact ⟨hnewer, n, rfl, env, hreplica, henv⟩
    · obtain ⟨rfl, e, he⟩ := hfail k hk
      -- a replica was made with the very environment that cannot be read
      have none_made : made = [] := by
        rw [List.eq_nil_iff_forall_not_mem]
        intro c hc
        obtain ⟨-, -, -, env, -, henv⟩ := hmade c hc
        rw [henv k hk] at he
        cases he
      exact ⟨by simp [none_made], by omega, e, he⟩

/-! ## Starting -/

/-- The new replicas are made, and those with the appearance of `left` are still to be started. -/
def Launching (d : String) (f : Fleet) (terms : Option Terms) (since : Nat) (config : Deployment)
    (old : List Created) (net : Option Network) (left : List Container) (r : Rollout) (s : Daemon) :
    Prop :=
  ∃ started waiting, At d f terms since net (old ++ started ++ waiting) s ∧
    waiting.map Created.container = left ∧
    r.config = config ∧ r.current = old.map Created.container ∧
    (started ++ waiting).length = config.scale.toNat ∧
    r.new.map Container.id = (started ++ waiting).map Created.id ∧
    (∀ c ∈ started, ∃ state, Fresh f terms since config net state c ∧ ∀ k ∈ terms, state = .running) ∧
    ∀ c ∈ waiting, Fresh f terms since config net .created c

theorem startContainers_at (r : Rollout) (s : Daemon)
    (h : Making d f terms since config old 0 r s) :
    startContainers.Meets (shared d terms)
      (fun _ r' u => ∃ net, Launching d f terms since config old net [] r' u)
      (fun _ _ _ => False) r s := by
  obtain ⟨net, made, hat, rfl, hlen, hmade⟩ := h
  unfold startContainers
  rw [StepAction.meets_bind, StepAction.meets_get]
  refine (StepAction.meets_forM (Launching d f terms since config old net) ?_ ?_).mono
    (fun _ _ _ h => ⟨net, h⟩) fun _ _ _ h => h
  · rintro x left r s ⟨started, waiting, hat, hleft, hconfig, hcurrent, hlen, hnew, hstarted, hwaiting⟩
    obtain ⟨c, waiting, rfl⟩ := List.exists_cons_of_ne_nil
      (show waiting ≠ [] by rintro rfl; cases hleft)
    obtain ⟨rfl, hleft'⟩ := List.cons.inj hleft
    refine StepAction.meets_during.2 ((start_at _ hat).mono (fun _ u ⟨state, hu, hterms⟩ => ?_)
      fun _ _ h => h)
    refine ⟨started ++ [c.map (Container.inState state)], waiting, by simpa using hu, hleft', hconfig,
      hcurrent, by simpa using hlen, by simpa using hnew, fun c' hc' => ?_, fun c' hc' => ?_⟩
    · rcases List.mem_append.1 hc' with hc' | hc'
      · exact hstarted c' hc'
      · obtain rfl := List.mem_singleton.1 hc'
        exact ⟨state, (hwaiting c List.mem_cons_self).inState state, hterms⟩
    · exact hwaiting c' (List.mem_cons_of_mem c hc')
  · exact ⟨[], made, by simpa using hat, rfl, rfl, rfl, by simpa using hlen,
      by simp [Function.comp_def, Created.id], by simp, hmade⟩

/-! ## Checking -/

/-- A container that is seen running runs; under terms it is seen at once. -/
theorem awaitRunning_at {L : List Created} {c : Created} {s : Daemon} (base attempt left : Nat)
    (h : At d f terms since net L s) (hc : c ∈ L)
    (hterms : ∀ k ∈ terms, c.container.state = .running) :
    (Fleet.awaitRunning base c.id attempt left).Meets (shared d terms)
      (fun _ u => At d f terms since net L u ∧ c.container.state = .running)
      (fun _ u => At d f terms since net L u ∧ terms = none) s := by
  have calm : c.container.state ≠ .running → terms = none := fun hstate =>
    Option.eq_none_iff_forall_not_mem.2 fun k hk => hstate (hterms k hk)
  induction left generalizing attempt s with
  | zero =>
    unfold Fleet.awaitRunning
    rw [Task.meets_bind]
    refine (inspect_at h hc).mono (fun x u ⟨hx, hu⟩ => ?_) fun _ _ h => h.elim
    subst hx
    by_cases hstate : c.container.state = .running
    · rw [if_pos hstate]
      exact ⟨hu, hstate⟩
    · rw [if_neg hstate]
      exact ⟨hu, calm hstate⟩
  | succ left ih =>
    unfold Fleet.awaitRunning
    rw [Task.meets_bind]
    refine (inspect_at h hc).mono (fun x u ⟨hx, hu⟩ => ?_) fun _ _ h => h.elim
    subst hx
    by_cases hstate : c.container.state = .running
    · rw [if_pos hstate]
      exact ⟨hu, hstate⟩
    · rw [if_neg hstate]
      dsimp only
      split
      · exact ⟨hu, calm hstate⟩
      · rw [Task.meets_bind]
        exact ask_at (by simp) hu fun t _ _ later => ih (attempt + 1) later

theorem healthCheck_at {L : List Created} {l : List Container} {made : List Created} {s : Daemon}
    (retries : UInt32) (hl : l.map Container.id = made.map Created.id) (hmade : made ⊆ L)
    (hterms : ∀ c ∈ made, ∀ k ∈ terms, c.container.state = .running)
    (h : At d f terms since net L s) :
    (f.healthCheck retries l).Meets (shared d terms)
      (fun _ u => At d f terms since net L u ∧ ∀ c ∈ made, c.container.state = .running)
      (fun _ u => At d f terms since net L u ∧ terms = none) s := by
  induction l generalizing made s with
  | nil =>
    obtain rfl : made = [] := by simpa using hl.symm
    exact ⟨h, by simp⟩
  | cons x l ih =>
    obtain ⟨c, made, rfl⟩ := List.exists_cons_of_ne_nil (show made ≠ [] by rintro rfl; cases hl)
    obtain ⟨hid, hl⟩ := List.cons.inj hl
    rw [List.cons_subset] at hmade
    unfold Fleet.healthCheck
    rw [Task.meets_bind, hid]
    refine (awaitRunning_at _ _ _ h hmade.1 (hterms c List.mem_cons_self)).mono
      (fun _ u ⟨hu, hc⟩ => ?_) fun _ _ h => h
    refine (ih hl hmade.2 (fun c' hc' => hterms c' (List.mem_cons_of_mem c hc')) hu).mono
      (fun _ u' ⟨hu', hrest⟩ => ⟨hu', fun c' hc' => ?_⟩) fun _ _ h => h
    rcases List.mem_cons.1 hc' with rfl | hc'
    · exact hc
    · exact hrest c' hc'

/-! ## Removing -/

/-- The new replicas run, and the old containers with the identifiers of `left` are still there. -/
def Replacing (d : String) (f : Fleet) (terms : Option Terms) (since : Nat) (config : Deployment)
    (net : Option Network) (made : List Created) (left : List Container) (r : Rollout) (s : Daemon) :
    Prop :=
  ∃ rest, At d f terms since net (rest ++ made) s ∧
    rest.map Created.id = left.map Container.id ∧ r.config = config ∧
    made.length = config.scale.toNat ∧ r.new.map Container.id = made.map Created.id ∧
    ∀ c ∈ made, Fresh f terms since config net .running c

theorem checkHealth_at (r : Rollout) (s : Daemon)
    (h : Launching d f terms since config old net [] r s) :
    (checkHealth f).Meets (shared d terms)
      (fun _ r' u => ∃ made, Replacing d f terms since config net made r'.current r' u)
      (fun _ r' u => Stuck d f terms since config old r' u) r s := by
  obtain ⟨started, waiting, hat, hnone, hconfig, hcurrent, hlen, hnew, hstarted, -⟩ := h
  obtain rfl : waiting = [] := by simpa using hnone
  rw [List.append_nil] at hat hlen hnew
  unfold checkHealth
  rw [StepAction.meets_bind, StepAction.meets_get, StepAction.meets_during]
  refine (healthCheck_at _ hnew (List.subset_append_right old started) (fun c hc k hk => ?_) hat).mono
    (fun _ u ⟨hu, hrunning⟩ => ⟨started, old, hu, ?_, hconfig, hlen, hnew, fun c hc => ?_⟩)
    fun _ u ⟨hu, hcalm⟩ => ⟨hconfig, net, _, hu, by simp [hcalm]⟩
  · obtain ⟨state, hfresh, hstate⟩ := hstarted c hc
    exact hfresh.state_eq.trans (hstate k hk)
  · simp [hcurrent, Function.comp_def, Created.id]
  · obtain ⟨state, hfresh, -⟩ := hstarted c hc
    obtain rfl : state = .running := hfresh.state_eq.symm.trans (hrunning c hc)
    exact hfresh

theorem removeOld_at {made : List Created} (r : Rollout) (s : Daemon)
    (h : Replacing d f terms since config net made r.current r s) :
    removeOld.Meets (shared d terms)
      (fun _ r' u => Replacing d f terms since config net made [] r' u) (fun _ _ _ => False) r s := by
  unfold removeOld
  rw [StepAction.meets_bind, StepAction.meets_get]
  refine StepAction.meets_forM (Replacing d f terms since config net made) ?_ h
  rintro x left r s ⟨rest, hat, hids, hrest⟩
  obtain ⟨c, rest, rfl⟩ := List.exists_cons_of_ne_nil (show rest ≠ [] by rintro rfl; cases hids)
  obtain ⟨hid, hids⟩ := List.cons.inj hids
  rw [StepAction.meets_bind, StepAction.meets_during]
  refine (stopIfRunning_at [] hid.symm hat).mono (fun _ t ⟨c', hid', ht⟩ => ?_)
    fun _ _ h => h.elim
  rw [StepAction.meets_during]
  exact (removeIfPresent_at [] (hid.symm.trans hid'.symm) ht).mono
    (fun _ u hu => ⟨rest, hu, hids, hrest⟩) fun _ _ h => h.elim

/-! ## The whole attempt -/

/-- What an attempt leaves: the deployment's containers are exactly the new replicas. -/
def Done (d : String) (f : Fleet) (terms : Option Terms) (since : Nat) (config : Deployment)
    (r : Rollout) (s : Daemon) : Prop :=
  ∃ net made, At d f terms since net made s ∧ r.config = config ∧
    made.length = config.scale.toNat ∧ r.new.map Container.id = made.map Created.id ∧
    ∀ c ∈ made, Fresh f terms since config net .running c

theorem workflow_at {job : Job} {current new : List Container} {s : Daemon} (hd : config.name = d)
    (h : At d f terms since none old s) :
    ((workflow f).runObserved job.announceStep ⟨config, current, new⟩).Meets (shared d terms)
      (fun r u => match r.1 with
        | .ok _ => Done d f terms since config r.2 u
        | .error _ => Stuck d f terms since config old r.2 u) s := by
  refine step_at (fun r u => r = ⟨config, old.map Created.container, []⟩ ∧ At d f terms since none old u)
    (fun _ _ => False) h (fun t ht => ?_) (fun r₁ t₁ h₁ => ?_) fun _ _ _ h => h.elim
  · unfold fetchCurrent
    rw [StepAction.meets_bind, StepAction.meets_get, StepAction.meets_bind, hd]
    refine StepAction.meets_during.2 ((list_at ht).mono (fun l u ⟨hl, hu⟩ => ?_) fun _ _ h => h.elim)
    subst hl
    exact ⟨rfl, hu⟩
  obtain ⟨rfl, h₁⟩ := h₁
  refine step_at (Making d f terms since config old config.scale.toNat)
    (Stuck d f terms since config old) h₁ (fun t ht => ?_) (fun r₂ t₂ h₂ => ?_) fun _ _ _ h => h
  · unfold pullImage
    rw [StepAction.meets_bind, StepAction.meets_get]
    refine StepAction.meets_during.2 ((pull_at ht).mono (fun _ u hu => ?_) fun _ u ⟨hu, hcalm⟩ => ?_)
    · exact ⟨none, [], by simpa using hu, rfl, by simp, by simp⟩
    · exact ⟨rfl, none, old, hu, by simp [hcalm]⟩
  obtain ⟨net₂, made₂, hat₂, hr₂, hrest₂⟩ := h₂
  refine step_at (Making d f terms since config old 0) (Stuck d f terms since config old) hat₂
    (fun t ht => ?_) (fun r₃ t₃ h₃ => ?_) fun _ _ _ h => h
  · unfold createContainers
    rw [StepAction.meets_bind, StepAction.meets_get, hr₂]
    exact createMany_at hd _ _ t ⟨net₂, made₂, ht, rfl, hrest₂⟩
  obtain ⟨net₃, made₃, hat₃, hrest₃⟩ := h₃
  refine step_at (fun r u => ∃ net, Launching d f terms since config old net [] r u)
    (fun _ _ => False) hat₃ (fun t ht => startContainers_at r₃ t ⟨net₃, made₃, ht, hrest₃⟩)
    (fun r₄ t₄ h₄ => ?_) fun _ _ _ h => h.elim
  obtain ⟨net, started, waiting, hat₄, hrest₄⟩ := h₄
  refine step_at (fun r u => ∃ made, Replacing d f terms since config net made r.current r u)
    (Stuck d f terms since config old) hat₄
    (fun t ht => checkHealth_at r₄ t ⟨started, waiting, ht, hrest₄⟩) (fun r₅ t₅ h₅ => ?_)
    fun _ _ _ h => h
  obtain ⟨made, rest, hat₅, hrest₅⟩ := h₅
  refine step_at (Replacing d f terms since config net made []) (fun _ _ => False) hat₅
    (fun t ht => removeOld_at r₅ t ⟨rest, ht, hrest₅⟩) (fun r₆ t₆ h₆ => ?_) fun _ _ _ h => h.elim
  obtain ⟨rest', hat₆, hids, hrest₆⟩ := h₆
  obtain rfl : rest' = [] := by simpa using hids
  exact ⟨net, made, hat₆, hrest₆⟩

/-- An attempt that succeeds leaves exactly the replicas it made, and one that fails leaves some
containers; under terms it fails only over a secret, and leaves the containers it found. The job keeps
everything but its lists of containers. -/
theorem attempt_at {job : Job} {current new : List Container} {s : Daemon}
    (hjob : job.work = .create config current new) (h : At config.name f terms since none old s) :
    (job.attempt f).Meets (shared config.name terms)
      (fun r u => ∃ current' new', r.2 = { job with work := .create config current' new' } ∧
        match r.1 with
        | .ok _ => Done config.name f terms since config ⟨config, current', new'⟩ u
        | .error _ => Stuck config.name f terms since config old ⟨config, current', new'⟩ u) s := by
  unfold Job.attempt
  rw [hjob]
  dsimp only
  rw [Program.meets_bind]
  refine (workflow_at rfl h).mono fun r u hr => ?_
  obtain ⟨outcome, ⟨config', current', new'⟩⟩ := r
  cases outcome with
  | ok _ =>
    obtain ⟨net, made, hat, rfl, hrest⟩ := hr
    exact ⟨current', new', rfl, net, made, hat, rfl, hrest⟩
  | error e =>
    obtain ⟨rfl, hrest⟩ := hr
    exact ⟨current', new', rfl, rfl, hrest⟩

end Orchestrator.Rollout
