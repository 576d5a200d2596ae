import Mathlib.Logic.Function.Iterate
import Orchestrator.Proofs.Daemon.Steps
import Orchestrator.Proofs.Rollout.Attempt

/-!
# A rollout converges across its retries

One worker runs a job that rolls a deployment out, and nobody else changes containers meanwhile. Any
number of attempts may fail half-way, for whatever reason; when one succeeds, the containers of the
deployment are exactly the replicas of that last attempt.

The invariant of the run is `Phase`: before an attempt nothing is known of the deployment's containers,
and during one the rest of its program will leave what `attempt_at` promises, counted from the state in
which the attempt began. Main statement: `converges`.
-/
namespace Orchestrator.Rollout

open Engine Daemon

/-- What may go on beside a worker: anything but a change of containers, of the worker's own state and
of what it runs its jobs with. Failures may be arranged at any time, and the clock may move. -/
structure Elsewhere (i : Nat) (s t : Daemon) : Prop where
  worker : t.workers[i]? = s.workers[i]?
  executor : t.pool.map Pool.executor = s.pool.map Pool.executor
  fleet : t.fleet = s.fleet
  containers : t.memory.containers = s.memory.containers
  created : s.memory.created ≤ t.memory.created
  networks : ∀ name n, s.memory.networks.find? name = some n →
    t.memory.networks.find? name = some n
  faults : t.engine.faults = s.engine.faults

/-- A run of a worker that has a job, up to the end of the job, with nobody else changing
containers. -/
inductive Undisturbed (i : Nat) (s : Daemon) : Daemon → Prop
  | here : Undisturbed i s s
  | step {t u : Daemon} {w : Worker} (h : Undisturbed i s t) (hw : t.workers[i]? = some w)
    (hjob : w.job?.isSome) (hstep : t.stepWorker i = some u) : Undisturbed i s u
  | elsewhere {t u : Daemon} (h : Undisturbed i s t) (he : Elsewhere i t u) : Undisturbed i s u

section

variable {i : Nat} {s t u : Daemon}

theorem Undisturbed.trans (h : Undisturbed i s t) (h' : Undisturbed i t u) : Undisturbed i s u := by
  induction h' with
  | here => exact h
  | step _ hw hjob hstep ih => exact ih.step hw hjob hstep
  | elsewhere _ he ih => exact ih.elsewhere he

theorem Elsewhere.steady (h : Elsewhere i s t) (hs : s.Steady) : t.Steady where
  faultless := h.faults.trans hs.faultless
  numbered := by
    refine ⟨by rw [h.containers]; exact hs.numbered.nodup, fun c hc n hn => ?_⟩
    rw [h.containers] at hc
    exact hs.numbered.fresh c hc n (Nat.lt_of_le_of_lt h.created hn)

theorem Elsewhere.foreign (h : Elsewhere i s t) (d : String) :
    t.memory.foreign d = s.memory.foreign d := by
  rw [Memory.foreign, h.containers]
  rfl

theorem Elsewhere.others (h : Elsewhere i s t) (d : String) : Others d none s t where
  owned := by
    rw [Memory.owned, h.containers]
    rfl
  networks := h.networks
  created := h.created
  fleet := h.fleet
  steady := h.steady
  terms := by simp

end

/-! ## The invariant -/

/-- What the worker has kept since the state `s₀`. -/
structure Kept (config : Deployment) (s₀ s : Daemon) : Prop where
  steady : s.Steady
  executor : s.pool.map Pool.executor = some .deployments
  fleet : s.fleet = s₀.fleet
  created : s₀.memory.created ≤ s.memory.created
  foreign : s.memory.foreign config.name = s₀.memory.foreign config.name

/-- What is known of the end of an attempt that `job` began when `since` containers were created. -/
def Outcome (config : Deployment) (id : Uuid) (f : Fleet) (job : Job) (since : Nat)
    (r : Except (Failure JobError) Unit × Job) (s : Daemon) : Prop :=
  r.2.id = id ∧ r.2.status.executionCount = job.status.executionCount + 1 ∧
    ∃ current new, r.2.work = .create config current new ∧
      (r.1 = .ok () → Done config.name f none since config ⟨config, current, new⟩ s)

/-- Where the worker's job stands in a run from `s₀` to `s`. -/
def Phase (config : Deployment) (id : Uuid) (i : Nat) (s₀ s : Daemon) : Worker → Prop
  | .taken job | .locking job | .resting job _ _ =>
    job.id = id ∧ ∃ current new, job.work = .create config current new
  | .attempting _ _ rest | .sleeping _ _ _ rest => ∃ s₁ w job, Undisturbed i s₀ s₁ ∧
    Undisturbed i s₁ s ∧ s₁.workers[i]? = some w ∧ w.Tries job ∧
    rest.Meets (shared config.name none)
      (Outcome config id s₀.fleet job s₁.memory.created) s
  | .idle | .stopped | .crashed _ => True

section

variable {config : Deployment} {id : Uuid} {i : Nat} {s₀ s t : Daemon} {w : Worker}

theorem Outcome.others {f : Fleet} {job : Job} {since : Nat}
    (r : Except (Failure JobError) Unit × Job) (s t : Daemon) (hst : Others config.name none s t)
    (h : Outcome config id f job since r s) : Outcome config id f job since r t := by
  obtain ⟨hid, hcount, current, new, hwork, hdone⟩ := h
  refine ⟨hid, hcount, current, new, hwork, fun hok => ?_⟩
  obtain ⟨net, made, hat, hrest⟩ := hdone hok
  exact ⟨net, made, hat.others hst, hrest⟩

theorem Phase.others (h : Phase config id i s₀ s w) (hrun : Undisturbed i s t)
    (hst : Others config.name none s t) : Phase config id i s₀ t w := by
  cases w with
  | attempting job attempt rest =>
    obtain ⟨s₁, w, job, h₁, h₂, hw, htries, hrest⟩ := h
    exact ⟨s₁, w, job, h₁, h₂.trans hrun, hw, htries, hrest.others hst Outcome.others⟩
  | sleeping job attempt wake rest =>
    obtain ⟨s₁, w, job, h₁, h₂, hw, htries, hrest⟩ := h
    exact ⟨s₁, w, job, h₁, h₂.trans hrun, hw, htries, hrest.others hst Outcome.others⟩
  | _ => exact h

/-- A new attempt will end in an outcome. -/
theorem begin_outcome {job job' : Job} {current new : List Container} (hid : job'.id = id)
    (hcount : job'.status.executionCount = job.status.executionCount + 1)
    (hwork : job'.work = .create config current new) (hs : s.Steady) {since : Nat}
    (hsince : since ≤ s.memory.created) :
    (Executor.performWorkflow s.fleet job').Meets (shared config.name none)
      (Outcome config id s.fleet job since) s := by
  unfold Executor.performWorkflow
  rw [Program.meets_bind]
  refine (attempt_at hwork ⟨hs, rfl, hsince, rfl, by simp, by simp⟩).mono fun r u hr => ?_
  obtain ⟨result, job''⟩ := r
  obtain ⟨current', new', rfl, hr⟩ := hr
  refine ⟨hid, hcount, current', new', rfl, fun hok => ?_⟩
  cases result with
  | ok _ => exact hr
  | error e => cases hok

/-- An attempt begins. -/
theorem Phase.begin {job : Job} (job' : Job) {attempt : Nat} {executor : Executor}
    {current new : List Container} (hkept : Kept config s₀ s) (hrun : Undisturbed i s₀ s)
    (hst : Undisturbed i s t) (haside : Aside s t) (hw : s.workers[i]? = some w)
    (htries : w.Tries job) (hexecutor : executor = .deployments) (hid : job'.id = id)
    (hcount : job'.status.executionCount = job.status.executionCount + 1)
    (hwork : job'.work = .create config current new) :
    Phase config id i s₀ t (.attempting job' attempt (executor.begin s.fleet job').1) := by
  subst hexecutor
  have later := begin_outcome hid hcount hwork hkept.steady (Nat.le_refl _)
  refine ⟨s, w, job, hrun, hst, hw, htries, ?_⟩
  rw [hkept.fleet] at later ⊢
  exact later.others haside.others Outcome.others

/-- Every step of the worker, while it has its job, keeps the invariant. -/
theorem Phase.step {pool : Pool} {w' : Worker} (hkept : Kept config s₀ s)
    (hphase : Phase config id i s₀ s w) (hrun : Undisturbed i s₀ s) (hst : Undisturbed i s t)
    (hpool : s.pool = some pool) (hw : s.workers[i]? = some w) (hjob : w.job?.isSome)
    (hstep : WorkerStep s pool i w w' t) : Phase config id i s₀ t w' := by
  have hexecutor : pool.executor = .deployments := by
    have := hkept.executor
    rw [hpool] at this
    exact Option.some.inj this
  cases hstep with
  | stop => trivial
  | take _ => cases hjob
  | join => exact hphase
  | @first job _ =>
    obtain ⟨hid, current, new, hwork⟩ := hphase
    exact .begin (job.started s.stamp.1).attempted hkept hrun hst
      ⟨rfl, rfl, fun _ _ => rfl, Nat.le_refl _, rfl⟩ hw (.inl rfl) hexecutor hid rfl hwork
  | succeed => trivial
  | crash => trivial
  | retry _ =>
    obtain ⟨_, _, _, -, -, -, -, hid, -, current, new, hwork, -⟩ := hphase
    exact ⟨hid, current, new, hwork⟩
  | fail _ => trivial
  | pause =>
    obtain ⟨s₁, w, job, h₁, h₂, hw, htries, hrest⟩ := hphase
    refine ⟨s₁, w, job, h₁, h₂.trans hst, hw, htries, (meets_serve hrest).2.others ?_ Outcome.others⟩
    exact (aside_setWorker ..).others
  | ask _ =>
    obtain ⟨s₁, w, job, h₁, h₂, hw, htries, hrest⟩ := hphase
    refine ⟨s₁, w, job, h₁, h₂.trans hst, hw, htries, (meets_serve hrest).2.others ?_ Outcome.others⟩
    exact (aside_setWorker ..).others
  | wake _ =>
    obtain ⟨s₁, w, job, h₁, h₂, hw, htries, hrest⟩ := hphase
    refine ⟨s₁, w, job, h₁, h₂.trans hst, hw, htries, hrest.others ?_ Outcome.others⟩
    exact (aside_setWorker ..).others
  | @again job attempt wake _ =>
    obtain ⟨hid, current, new, hwork⟩ := hphase
    exact .begin job.attempted hkept hrun hst ⟨rfl, rfl, fun _ _ => rfl, Nat.le_refl _, rfl⟩ hw
      (.inr ⟨attempt, wake, rfl⟩) hexecutor hid rfl hwork

/-- What a step of the worker does to the engine is its own. -/
theorem Kept.step {pool : Pool} {w' : Worker} (hkept : Kept config s₀ s)
    (hphase : Phase config id i s₀ s w) (hpool : s.pool = some pool)
    (hstep : WorkerStep s pool i w w' t) : Kept config s₀ t := by
  have own : Own config.name none s t := by
    rcases hstep.aside with haside | ⟨job, attempt, c, next, rfl, -, rfl⟩
    · exact haside.own
    · obtain ⟨_, _, _, -, -, -, -, hrest⟩ := hphase
      exact (meets_serve hrest).1.aside (aside_setWorker ..)
  obtain ⟨executor, hpool', hexecutor⟩ := hstep.pool_eq hpool
  refine ⟨own.steady hkept.steady, ?_, own.fleet.trans hkept.fleet,
    Nat.le_trans hkept.created own.created, own.foreign.trans hkept.foreign⟩
  have := hkept.executor
  rw [hpool] at this
  rw [hpool']
  exact congrArg some (hexecutor (Option.some.inj this))

/-- The invariant holds along every run. -/
theorem Undisturbed.kept {job : Job} {current new : List Container}
    (hrun : Undisturbed i s₀ s) (hs : s₀.Steady)
    (hexecutor : s₀.pool.map Pool.executor = some .deployments)
    (hw : s₀.workers[i]? = some (.taken job)) (hwork : job.work = .create config current new) :
    Kept config s₀ s ∧ ∃ w, s.workers[i]? = some w ∧ Phase config job.id i s₀ s w := by
  induction hrun with
  | here => exact ⟨⟨hs, hexecutor, rfl, Nat.le_refl _, rfl⟩, _, hw, rfl, current, new, hwork⟩
  | @step t u w hrun hw' hjob hstep ih =>
    obtain ⟨hkept, w₀, hw₀, hphase⟩ := ih
    obtain rfl : w₀ = w := Option.some.inj (hw₀.symm.trans hw')
    obtain ⟨pool, w', hpool, -, hw₁, hcases⟩ := workerStep_of_stepWorker hw' hstep
    exact ⟨hkept.step hphase hpool hcases, w', hw₁,
      hphase.step hkept hrun (.step .here hw' hjob hstep) hpool hw' hjob hcases⟩
  | @elsewhere t u hrun he ih =>
    obtain ⟨hkept, w₀, hw₀, hphase⟩ := ih
    refine ⟨⟨he.steady hkept.steady, he.executor.trans hkept.executor, he.fleet.trans hkept.fleet,
      Nat.le_trans hkept.created he.created, (he.foreign _).trans hkept.foreign⟩, w₀,
      he.worker.trans hw₀, hphase.others (.elsewhere .here he) (he.others _)⟩

theorem Undisturbed.created_le (h : Undisturbed i s t) (hs : s.Steady) :
    t.Steady ∧ s.memory.created ≤ t.memory.created := by
  induction h with
  | here => exact ⟨hs, Nat.le_refl _⟩
  | step _ _ _ hstep ih =>
    obtain ⟨pool, w, w', -, -, hcases⟩ := stepWorker_cases hstep
    obtain ⟨ht, hle⟩ := hcases.steady ih.1
    exact ⟨ht, Nat.le_trans ih.2 hle⟩
  | elsewhere _ he ih => exact ⟨he.steady ih.1, Nat.le_trans ih.2 he.created⟩

/-- The worker ends its job with a success. -/
theorem Phase.succeeded {pool : Pool} {w' : Worker} {job' : Job} {time : Nat}
    (hphase : Phase config id i s₀ s w) (hstep : WorkerStep s pool i w w' t)
    (hfinished : t.finished = s.finished ++ [(job', time)]) (hsucceeded : job'.succeeded) :
    Aside s t ∧ ∃ s₁ w₁ job net made, Undisturbed i s₀ s₁ ∧ Undisturbed i s₁ s ∧
      s₁.workers[i]? = some w₁ ∧ w₁.Tries job ∧ job'.id = id ∧
      job'.status.executionCount = job.status.executionCount + 1 ∧
      At config.name s₀.fleet none s₁.memory.created net made t ∧
      made.length = config.scale.toNat ∧ job'.work.new.map Container.id = made.map Created.id ∧
      ∀ c ∈ made, Fresh s₀.fleet none s₁.memory.created config net .running c := by
  rcases hstep.finished with hsame | ⟨job, job'', attempt, -, ⟨rfl, rfl⟩ | ⟨e, rfl, rfl⟩⟩
  · simp [hsame] at hfinished
  · obtain ⟨rfl, -⟩ := complete_finished hfinished
    obtain ⟨s₁, w₁, job₁, h₁, h₂, hw₁, htries, hid, hcount, current, new, hwork, hdone⟩ := hphase
    obtain ⟨net, made, hat, -, hlen, hids, hfresh⟩ := hdone rfl
    have haside := aside_complete s i job'' .succeeded
    refine ⟨haside, s₁, w₁, job₁, net, made, h₁, h₂, hw₁, htries, hid, hcount,
      hat.others haside.others, hlen, ?_, hfresh⟩
    change job''.work.new.map Container.id = _
    rw [hwork]
    exact hids
  · obtain ⟨rfl, -⟩ := complete_finished hfinished
    cases hsucceeded

/-- A worker has taken a job that rolls a deployment out, and nobody else changes containers. When the
job ends in success, there was a last attempt, begun in a state `s'`, such that the deployment's
containers are exactly the `scale` ones that this attempt created, all running and in the network; those
the deployment had in any state up to `s'` are gone; and all other containers are what they were. -/
theorem converges (i : Nat) (config : Deployment) (current new : List Container) (job job' : Job)
    (time : Nat) (s₀ s₁ s : Daemon) (hs₀ : s₀.Steady)
    (hexecutor : s₀.pool.map Pool.executor = some .deployments)
    (htaken : s₀.workers[i]? = some (.taken job)) (hwork : job.work = .create config current new)
    (hrun : Undisturbed i s₀ s₁) (hstep : s₁.stepWorker i = some s)
    (hfinished : s.finished = s₁.finished ++ [(job', time)]) (hsucceeded : job'.succeeded) :
    job'.id = job.id ∧ s.memory.foreign config.name = s₀.memory.foreign config.name ∧
    ∃ s' w' job'', Undisturbed i s₀ s' ∧ Undisturbed i s' s₁ ∧
      (s'.workers[i]? = some w' ∧ w'.Tries job'' ∧
        job'.status.executionCount = job''.status.executionCount + 1) ∧
      (s.memory.owned config.name).length = config.scale.toNat ∧
      (s.memory.owned config.name).map Created.id = job'.work.new.map Container.id ∧
      (∀ c ∈ s.memory.owned config.name, c.container.state = .running ∧
        (∃ n, s.memory.networks.find? s.fleet.network = some n ∧
          c.container.networkId = some n.id) ∧
        c.id ∉ s'.memory.containers.map Created.id) ∧
      ∀ u, Undisturbed i s₀ u → Undisturbed i u s' →
        ∀ c ∈ u.memory.owned config.name, c.id ∉ s.memory.containers.map Created.id := by
  obtain ⟨hkept, w, hw, hphase⟩ := hrun.kept hs₀ hexecutor htaken hwork
  obtain ⟨pool, w', -, -, -, hcases⟩ := workerStep_of_stepWorker hw hstep
  obtain ⟨haside, s', w₁, job'', net, made, h₁, h₂, hw₁, htries, hid, hcount, hat, hlen, hids, hfresh⟩ :=
    hphase.succeeded hcases hfinished hsucceeded
  have hforeign : s.memory.foreign config.name = s₀.memory.foreign config.name := by
    rw [haside.memory, hkept.foreign]
  refine ⟨hid, hforeign, s', w₁, job'', h₁, h₂, ⟨hw₁, htries, hcount⟩, ?_, ?_, ?_, ?_⟩
  · rw [hat.owned, hlen]
  · rw [hat.owned, hids]
  · rw [hat.owned]
    intro c hc
    have hc' := hfresh c hc
    refine ⟨hc'.state_eq, ?_, hc'.1.not_mem (h₁.created_le hs₀).1 (Nat.le_refl _)⟩
    obtain ⟨-, n, hn, env, ⟨name, id, now, rfl⟩, -⟩ := hc'
    refine ⟨n, ?_, rfl⟩
    rw [haside.fleet, hkept.fleet]
    exact hat.network n hn
  · intro u hu₀ hu c hc hmem
    obtain ⟨hu_steady, -⟩ := hu₀.created_le hs₀
    obtain ⟨hu_kept, -⟩ := hu₀.kept hs₀ hexecutor htaken hwork
    obtain ⟨c', hc', hidc⟩ := List.mem_map.1 hmem
    by_cases howner : c'.owner? = some config.name
    · have hnew : c' ∈ made := by
        rw [← hat.owned]
        exact Memory.mem_owned.2 ⟨hc', howner⟩
      refine (hfresh c' hnew).1.not_mem hu_steady (hu.created_le hu_steady).2 ?_
      rw [hidc]
      exact List.mem_map_of_mem (Memory.mem_owned.1 hc).1
    · have hold : c' ∈ u.memory.foreign config.name := by
        rw [hu_kept.foreign, ← hforeign]
        exact Memory.mem_foreign.2 ⟨hc', howner⟩
      exact hu_steady.numbered.ne_of_foreign hc hold hidc

end

/-- A worker takes a step while it has a job; where it pauses, the clock moves on. -/
def hurry (i : Nat) (s : Daemon) : Daemon :=
  match s.workers[i]? with
  | none => s
  | some w =>
    if w.job?.isSome then (s.stepWorker i).getD { s with now := s.now + 5000 } else s

theorem Undisturbed.hurry {i : Nat} {s t : Daemon} (h : Undisturbed i s t) :
    Undisturbed i s (hurry i t) := by
  unfold Rollout.hurry
  split
  · exact h
  · rename_i w hw
    split
    · rename_i hjob
      cases hstep : t.stepWorker i with
      | some u => exact h.step hw hjob hstep
      | none => exact h.elsewhere ⟨rfl, rfl, rfl, rfl, Nat.le_refl _, fun _ _ => id, rfl⟩
    · exact h

theorem Undisturbed.iterate {i : Nat} {s t : Daemon} (h : Undisturbed i s t) (n : Nat) :
    Undisturbed i s (Nat.iterate (Rollout.hurry i) n t) := by
  induction n generalizing t with
  | zero => exact h
  | succ n ih => exact ih h.hurry

/-- A deployment with one running container is rolled out again, beside a container of another one.
The next pull fails. -/
def troubled (d : Deployment) : Daemon where
  engine.memory.containers :=
    let spec := Fleet.specFor {} d (d.name ++ "-0") []
    let other := Fleet.specFor {} (Deployment.new "web" "caddy") "web-0" []
    [⟨spec, { Memory.newContainer spec "c1" .epoch with state := .running }⟩,
      ⟨other, Memory.newContainer other "c2" .epoch⟩]
  engine.memory.created := 2
  engine.memory.failingPulls := 1
  pool := some { concurrency := 1, workers := [.taken (Job.create ⟨7⟩ .epoch d 3)] }

theorem elsewhere_failing (i : Nat) (s : Daemon) (n : Nat) :
    Elsewhere i s { s with engine.memory.failingCreates := n } :=
  ⟨rfl, rfl, rfl, rfl, Nat.le_refl _, fun _ _ => id, rfl⟩

/-- In the middle of the second attempt, with one replica made, the next creation is made to fail. -/
def interrupted (d : Deployment) : Daemon :=
  { Nat.iterate (hurry 0) 20 (troubled d) with engine.memory.failingCreates := 1 }

/-- The first attempt fails at pulling, the second after it has created one of two replicas, and the
third succeeds: the two containers it made are left, beside that of the other deployment. -/
theorem converges_after_failures :
    let d := { Deployment.new "api" "nginx" with scale := 2 }
    let s₁ := Nat.iterate (hurry 0) 31 (interrupted d)
    let s := (s₁.stepWorker 0).getD s₁
    (s.memory.owned "api").map Created.id = ["c4", "c5"] ∧
      (∀ c ∈ s.memory.owned "api", c.container.state = .running) ∧
      s.memory.foreign "api" = (troubled d).memory.foreign "api" := by
  intro d s₁ s
  have hrun : Undisturbed 0 (troubled d) s₁ := by
    exact Undisturbed.iterate (.elsewhere (Undisturbed.iterate .here 20) (elsewhere_failing ..)) 31
  have hsteady : (troubled d).Steady := by
    refine ⟨rfl, by decide +kernel, fun c hc n hn => ?_⟩
    have hid : c.id = Memory.numbered "c" 1 ∨ c.id = Memory.numbered "c" 2 := by
      revert c
      decide +kernel
    have hn' : 2 < n := hn
    rcases hid with hid | hid <;> intro heq
    · have := Memory.numbered_injective (hid.symm.trans heq)
      omega
    · have := Memory.numbered_injective (hid.symm.trans heq)
      omega
  have hsome : (s₁.stepWorker 0).isSome := by decide +kernel
  have some_getD : ∀ (o : Option Daemon) (t : Daemon), o.isSome → o = some (o.getD t) := by
    rintro (_ | u) t h
    · cases h
    · rfl
  have hstep : s₁.stepWorker 0 = some s := some_getD _ _ hsome
  let last := s.finished.getLast?.getD (Job.create ⟨0⟩ .epoch d 1, 0)
  have hfinished : s.finished = s₁.finished ++ [(last.1, last.2)] := by decide +kernel
  have hnew : last.1.work.new.map Container.id = ["c4", "c5"] := by decide +kernel
  obtain ⟨-, hforeign, _, _, _, -, -, -, -, hids, hrunning, -⟩ :=
    converges 0 d [] [] (Job.create ⟨7⟩ .epoch d 3) last.1 last.2 (troubled d) s₁ s hsteady rfl rfl rfl
      hrun hstep hfinished (by decide +kernel)
  exact ⟨hids.trans hnew, fun c hc => (hrunning c hc).1, hforeign⟩

end Orchestrator.Rollout
