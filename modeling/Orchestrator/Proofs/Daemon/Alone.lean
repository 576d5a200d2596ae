import Mathlib.Data.List.Forall2
import Mathlib.Data.List.Induction
import Orchestrator.Proofs.Rollout.Attempt
import Orchestrator.Proofs.Teardown.Attempt

/-!
# Jobs carried out alone

`Daemon.alone` carries a job out, from its first attempt to its end, with nobody else acting. What jobs
of a deployment leave of its containers depends, under terms, only on the sequence of their works:
`Shape` is what is known of it, and `Terms.after` how a job changes it. An attempt reaches the shape of
its job whatever others do meanwhile (`attempt_settles`), so it does alone, too (`settled_alone`).

Containers of the same shape are `Alike`: the same up to what is drawn anew for each.
-/
namespace Orchestrator

open Engine

namespace Daemon

/-- An attempt of a job with nobody else acting. -/
def attemptAlone (s : Daemon) (job : Job) : (Except (Failure JobError) Unit × Job) × Daemon :=
  (Executor.performWorkflow s.fleet job.attempted).run Daemon.serve s

/-- The attempts of a job with nobody else acting: as long as they fail, up to `retries` after the
first. -/
def tryAlone (s : Daemon) (job : Job) : Nat → Daemon
  | 0 => (s.attemptAlone job).2
  | retries + 1 =>
    match s.attemptAlone job with
    | ((.error (.error e), job'), t) => t.tryAlone (job'.withFailure e.message) retries
    | (_, t) => t

/-- A job from its beginning to its end with nobody else acting. -/
def alone (s : Daemon) (job : Job) : Daemon :=
  s.tryAlone (job.started s.stamp.1) (max job.attempts.toNat 1 - 1)

end Daemon

/-! ## Shapes -/

/-- What is known of a deployment's containers. -/
inductive Shape where
  /-- They are those that were found in the beginning. -/
  | asFound
  /-- They are the replicas of a rollout. -/
  | rolledOut (config : Deployment)
  | tornDown

/-- The shape after a job. A rollout comes to nothing if it needs secrets that cannot be read. -/
def Terms.after (k : Terms) (shape : Shape) : Work → Shape
  | .create config _ _ =>
    match config.scale.toNat, k.env config with
    | _ + 1, .error _ => shape
    | _, _ => .rolledOut config
  | .delete _ _ => .tornDown

/-- The shape after a sequence of jobs. -/
def Terms.shape (k : Terms) (jobs : List Job) : Shape :=
  jobs.foldl (fun shape job => k.after shape job.work) .asFound

/-- Containers have a shape, in a daemon that is `s₀` in the beginning. -/
def Shape.Fits (k : Terms) (s₀ : Daemon) (d : String) (shape : Shape) (L : List Created) : Prop :=
  match shape with
  | .asFound => L = s₀.memory.owned d
  | .rolledOut config => L.length = config.scale.toNat ∧
    ∀ c ∈ L, Rollout.Fresh s₀.fleet (some k) s₀.memory.created config (some k.network) .running c
  | .tornDown => L = []

section

variable {k : Terms} {shape : Shape} {config : Deployment} {current new : List Container}

theorem Terms.shape_concat (jobs : List Job) (job : Job) :
    k.shape (jobs ++ [job]) = k.after (k.shape jobs) job.work := by
  rw [shape, List.foldl_append]
  rfl

theorem Terms.after_create (h : config.scale.toNat = 0 ∨ ∃ env, k.env config = .ok env) :
    k.after shape (.create config current new) = .rolledOut config := by
  dsimp only [after]
  split
  · rename_i n e hscale hfail
    rcases h with h | ⟨env, henv⟩
    · omega
    · rw [henv] at hfail
      cases hfail
  · rfl

theorem Terms.after_create_stuck (hscale : config.scale.toNat ≠ 0)
    (h : ∃ e, k.env config = .error e) : k.after shape (.create config current new) = shape := by
  obtain ⟨e, he⟩ := h
  dsimp only [after]
  split
  · rfl
  · rename_i hnot
    obtain ⟨n, hn⟩ := Nat.exists_eq_succ_of_ne_zero hscale
    exact (hnot n e hn he).elim

/-- Another attempt of the same job leaves the shape as it is. -/
theorem Terms.after_after (shape : Shape) (work : Work) :
    k.after (k.after shape work) work = k.after shape work := by
  cases work with
  | delete => rfl
  | create config current new =>
    by_cases h : config.scale.toNat ≠ 0 ∧ ∃ e, k.env config = .error e
    · rw [after_create_stuck h.1 h.2]
    · have hok : config.scale.toNat = 0 ∨ ∃ env, k.env config = .ok env := by
        cases henv : k.env config with
        | ok env => exact .inr ⟨env, rfl⟩
        | error e => exact .inl (not_not.1 fun hscale => h ⟨hscale, e, henv⟩)
      rw [after_create hok, after_create hok]

end

/-! ## Alike -/

/-- The container without its identifier, its name and the time of its creation. -/
def Engine.Created.faceless (c : Created) : Created :=
  ⟨{ c.spec with name := "" }, { c.container with id := "", name := "", createdAt := none }⟩

/-- Two containers are the same, or both are younger than a number of containers, and the same up to
what is drawn anew for each. -/
def Alike (since : Nat) (c c' : Created) : Prop :=
  c = c' ∨ (Newer since c ∧ Newer since c' ∧ c.faceless = c'.faceless)

/-- Fresh containers of one deployment are alike. -/
theorem Rollout.Fresh.alike {f : Fleet} {terms : Option Terms} {since : Nat} {config : Deployment}
    {net : Option Network} {state : ContainerState} {c c' : Created} {k : Terms} (hk : k ∈ terms)
    (h : Fresh f terms since config net state c) (h' : Fresh f terms since config net state c') :
    Alike since c c' := by
  obtain ⟨hnewer, n, hn, env, ⟨name, id, now, rfl⟩, henv⟩ := h
  obtain ⟨hnewer', n', hn', env', ⟨name', id', now', rfl⟩, henv'⟩ := h'
  obtain rfl : n = n' := Option.mem_unique hn hn'
  obtain rfl : env = env' := Except.ok.inj ((henv k hk).symm.trans (henv' k hk))
  exact .inr ⟨hnewer, hnewer', rfl⟩

/-- Containers of one shape are alike. -/
theorem Shape.Fits.alike {k : Terms} {s₀ : Daemon} {d : String} {shape : Shape} {L L' : List Created}
    (h : shape.Fits k s₀ d L) (h' : shape.Fits k s₀ d L') :
    List.Forall₂ (Alike s₀.memory.created) L L' := by
  cases shape with
  | asFound =>
    rw [show L = L' from Eq.trans h (Eq.symm h')]
    exact List.forall₂_same.2 fun c _ => .inl rfl
  | tornDown =>
    rw [show L = [] from h, show L' = [] from h']
    exact .nil
  | rolledOut config =>
    refine List.forall₂_iff_zip.2 ⟨h.1.trans h'.1.symm, fun hmem => ?_⟩
    obtain ⟨hc, hc'⟩ := List.of_mem_zip hmem
    exact (h.2 _ hc).alike rfl (h'.2 _ hc')

/-! ## Attempts -/

/-- The containers of a deployment have a shape, and terms hold that held in the beginning. -/
structure Settled (k : Terms) (s₀ : Daemon) (d : String) (shape : Shape) (s : Daemon) : Prop where
  here : At d s₀.fleet (some k) s₀.memory.created none (s.memory.owned d) s
  fits : shape.Fits k s₀ d (s.memory.owned d)

/-- A valid job is for the deployment of its work. -/
def Job.Apt (job : Job) : Prop := job.scope = job.work.config.name

/-- How an attempt ends that was to reach a shape: it has no panic, has kept its job, and has reached
the shape. -/
def Reached (k : Terms) (s₀ : Daemon) (d : String) (shape : Shape)
    (r : Except (Failure JobError) Unit × Job) (s : Daemon) : Prop :=
  (∀ text, r.1 ≠ .error (.panic text)) ∧ r.2.scope = d ∧ r.2.Apt ∧ k.after shape r.2.work = shape ∧
    Settled k s₀ d shape s

section

variable {k : Terms} {s₀ s t : Daemon} {d : String} {shape : Shape} {job : Job}

theorem Job.apt_of_validate (h : job.validate = .ok ()) : job.Apt := by
  unfold Job.validate at h
  split at h
  · cases h
  · split at h
    · cases h
    · rename_i hscope
      exact not_not.1 hscope

theorem Settled.of_at {net : Option Network} {L : List Created}
    (h : At d s₀.fleet (some k) s₀.memory.created net L s) (hfits : shape.Fits k s₀ d L) :
    Settled k s₀ d shape s := by
  obtain rfl := h.owned
  exact ⟨⟨h.steady, rfl, h.later, h.fleet, h.hold, by simp⟩, hfits⟩

theorem Settled.others (h : Settled k s₀ d shape s) (hst : Others d (some k) s t) :
    Settled k s₀ d shape t := .of_at (h.here.others hst) h.fits

theorem Reached.others (r : Except (Failure JobError) Unit × Job) (s t : Daemon)
    (hst : Others d (some k) s t) (h : Reached k s₀ d shape r s) : Reached k s₀ d shape r t :=
  ⟨h.1, h.2.1, h.2.2.1, h.2.2.2.1, h.2.2.2.2.others hst⟩

/-- What a rollout leaves when it is done has its shape. -/
theorem Rollout.Done.settled {config : Deployment} {current new : List Container} {r : Rollout}
    (h : Rollout.Done d s₀.fleet (some k) s₀.memory.created config r s) :
    Settled k s₀ d (k.after shape (.create config current new)) s := by
  obtain ⟨net, made, hat, -, hlen, -, hmade⟩ := h
  have hafter : k.after shape (.create config current new) = .rolledOut config := by
    refine Terms.after_create ?_
    cases made with
    | nil => exact .inl hlen.symm
    | cons c made =>
      obtain ⟨-, -, -, env, -, henv⟩ := hmade c List.mem_cons_self
      exact .inr ⟨env, henv k rfl⟩
  rw [hafter]
  refine .of_at hat ⟨hlen, fun c hc => ?_⟩
  obtain ⟨hnewer, n, hn, hrest⟩ := hmade c hc
  obtain rfl := Option.mem_def.1 hn
  rw [← hat.network_eq]
  exact ⟨hnewer, n, rfl, hrest⟩

/-- Whatever others do, an attempt reaches the shape of its job. -/
theorem attempt_settles (job : Job) (hscope : job.scope = d) (hapt : job.Apt)
    (h : Settled k s₀ d shape s) :
    (Executor.performWorkflow s₀.fleet job).Meets (shared d (some k))
      (Reached k s₀ d (k.after shape job.work)) s := by
  obtain rfl := hscope
  unfold Executor.performWorkflow
  rw [Program.meets_bind]
  cases hwork : job.work with
  | create config current new =>
    have hd : job.scope = config.name := by rw [hapt, hwork]; rfl
    rw [hd] at h ⊢
    refine (Rollout.attempt_at hwork h.here).mono fun r u hr => ?_
    obtain ⟨result, job'⟩ := r
    obtain ⟨current', new', rfl, hr⟩ := hr
    cases result with
    | ok _ =>
      refine ⟨fun _ h => (nomatch h), hd, hd, Terms.after_after shape (.create config current new), ?_⟩
      exact Rollout.Done.settled hr
    | error e =>
      obtain ⟨-, net, L, hat, hfail⟩ := hr
      obtain ⟨rfl, hscale, henv⟩ := hfail k rfl
      refine ⟨fun _ h => (nomatch h), hd, hd, Terms.after_after shape (.create config current new), ?_⟩
      rw [Terms.after_create_stuck hscale henv]
      exact .of_at hat h.fits
  | delete config current =>
    have hd : job.scope = config.name := by rw [hapt, hwork]; rfl
    rw [hd] at h ⊢
    refine (Teardown.attempt_at hwork h.here).mono fun r u hr => ?_
    obtain ⟨result, job'⟩ := r
    obtain ⟨hok, ⟨current', rfl⟩, hat⟩ := hr
    obtain rfl : result = .ok () := hok
    exact ⟨fun _ h => (nomatch h), hd, hd, rfl, .of_at hat rfl⟩

/-! ## Alone -/

theorem reached_attemptAlone (job : Job) (hscope : job.scope = d) (hapt : job.Apt)
    (h : Settled k s₀ d shape s) :
    Reached k s₀ d (k.after shape job.work) (s.attemptAlone job).1 (s.attemptAlone job).2 := by
  have hjob : (Executor.performWorkflow s₀.fleet job.attempted).Meets (shared d (some k))
      (Reached k s₀ d (k.after shape job.work)) s := attempt_settles job.attempted hscope hapt h
  rw [← h.here.fleet] at hjob
  exact hjob.run fun r t => ⟨t, .refl t, rfl⟩

theorem settled_tryAlone (job : Job) (retries : Nat) (hscope : job.scope = d) (hapt : job.Apt)
    (h : Settled k s₀ d shape s) :
    Settled k s₀ d (k.after shape job.work) (s.tryAlone job retries) := by
  have first := reached_attemptAlone job hscope hapt h
  induction retries generalizing shape s job with
  | zero => exact first.2.2.2.2
  | succ retries ih =>
    unfold Daemon.tryAlone
    generalize s.attemptAlone job = attempt at first ⊢
    obtain ⟨⟨result, job'⟩, t⟩ := attempt
    obtain ⟨hpanic, hscope', hapt', hafter, hsettled⟩ := first
    match result with
    | .ok _ => exact hsettled
    | .error (.panic text) => exact (hpanic text rfl).elim
    | .error (.error e) =>
      have later := ih (job'.withFailure e.message) hscope' hapt' hsettled
        (reached_attemptAlone _ hscope' hapt' hsettled)
      exact hafter ▸ later

/-- A job alone reaches its shape. -/
theorem settled_alone (hscope : job.scope = d) (hapt : job.Apt) (h : Settled k s₀ d shape s) :
    Settled k s₀ d (k.after shape job.work) (s.alone job) :=
  settled_tryAlone (job.started s.stamp.1) _ hscope hapt h

/-- Jobs of a deployment, alone and one after another, reach the shape of their sequence. -/
theorem settled_foldl_alone (jobs : List Job) (hjobs : ∀ job ∈ jobs, job.scope = d ∧ job.Apt)
    (h : Settled k s₀ d .asFound s₀) :
    Settled k s₀ d (k.shape jobs) (jobs.foldl Daemon.alone s₀) := by
  induction jobs using List.reverseRecOn with
  | nil => exact h
  | append_singleton jobs job ih =>
    obtain ⟨hscope, hapt⟩ := hjobs job (by simp)
    rw [List.foldl_append, Terms.shape_concat]
    exact settled_alone hscope hapt (ih fun j hj => hjobs j (by simp [hj]))

end

end Orchestrator
