import Orchestrator.Proofs.Program.Setting

/-!
# Kinds of tasks

A kind is a property that tasks have which are put together of tasks that have it, and that whoever asks
for one thing has. Unlike a property of programs (`Program.Closed`) it may speak of how a task fails.
The steps of rollouts and teardowns are of every kind, with one reservation: a wait for containers is
of a kind only if a panic is, or if none of its pauses is too long. Main statements:
`Task.Kind.rollout`, `Task.Kind.teardown`.
-/
namespace Orchestrator

/-- Is the request answered without a look at the engine, and asked for in the middle of a step? -/
def Request.isAside : Request → Bool
  | .secret .. | .suffix | .pause _ => true
  | _ => false

/-- A property that tasks have which are put together of tasks that have it. -/
structure Task.Kind (P : ∀ {ε α : Type}, Task ε α → Prop) : Prop where
  pure {ε α : Type} (a : α) : P (pure a : Task ε α)
  fail {ε α : Type} (e : ε) : P (Task.fail e : Task ε α)
  bind {ε α β : Type} {t : Task ε α} {f : α → Task ε β} : P t → (∀ a, P (f a)) → P (t >>= f)
  ifPresent {a : Fleet.Action Unit} : P a → P (Fleet.ifPresent a)
  ask {ε : Type} {r : Request} : r.isAside = true → P (Task.ask r : Task ε r.Answer)
  call (c : Engine.Call) : P (Fleet.call c)

variable {P : ∀ {ε α : Type}, Task ε α → Prop} {α β ν : Type}

/-! ## Steps as tasks -/

namespace StepAction

/-- A step begun on a value, as a task that succeeds with what it leaves of it. -/
def task (x : StepAction ν α) (v : ν) : Task ContainerError (α × ν) :=
  ExceptT.mk ((fun r => r.1.map fun a => (a, r.2)) <$> x.run v)

theorem task_bind (x : StepAction ν α) (f : α → StepAction ν β) (v : ν) :
    (x >>= f).task v = x.task v >>= fun r => (f r.1).task r.2 := by
  refine ExceptT.ext ?_
  simp only [task, ExceptT.run_mk, run_bind, ExceptT.run_bind, map_bind, bind_map_left]
  refine bind_congr fun ⟨r, v'⟩ => ?_
  cases r <;> rfl

theorem task_during (a : Fleet.Action α) (v : ν) :
    (Fleet.during a : StepAction ν α).task v = a >>= fun b => pure (b, v) := by
  refine ExceptT.ext ?_
  change (fun r => r.1.map fun b => (b, r.2)) <$> (fun r => (r, v)) <$> a.run = _
  rw [ExceptT.run_bind]
  simp only [map_eq_pure_bind, bind_assoc, pure_bind]
  refine bind_congr fun r => ?_
  cases r <;> rfl

theorem meets_task {σ : Type} {w : Setting σ} {x : StepAction ν α} {v : ν} {s : σ}
    {good : α × ν → σ → Prop} {bad : Failure ContainerError → σ → Prop} :
    (x.task v).Meets w good bad s ↔
      x.Meets w (fun a v' u => good (a, v') u) (fun f _ u => bad f u) v s := by
  unfold Task.Meets Meets task
  rw [ExceptT.run_mk, Program.meets_map]
  refine iff_of_eq (congrArg (fun post => Program.Meets w post (x.run v) s) ?_)
  funext ⟨r, v'⟩ u
  cases r <;> rfl

end StepAction

namespace Task.Kind

/-! ## The parts of steps -/

theorem resolve (h : Kind P) (d : String) (secrets : List (String × String)) :
    P (Fleet.resolve d secrets) := by
  induction secrets with
  | nil => exact h.pure _
  | cons entry rest ih =>
    refine h.bind (h.ask rfl) fun found => ?_
    split
    · exact h.bind ih fun _ => h.pure _
    · exact ih
    · exact h.fail _

theorem create (h : Kind P) (f : Fleet) (d : Deployment) : P (f.create d) := by
  have network : P f.ensureNetwork := by
    refine h.bind (h.call _) fun found => ?_
    cases found with
    | none => exact h.call _
    | some network => exact h.pure _
  have env : P (Fleet.resolveEnv d) := h.bind (h.resolve _ _) fun _ => h.pure _
  have spec : P (f.spec d) := h.bind env fun _ => h.bind (h.ask rfl) fun _ => h.pure _
  exact h.bind network fun _ => h.bind spec fun _ => h.bind (h.call _) fun _ =>
    h.bind (h.call _) fun _ => h.call _

/-- The pause before the last look is the longest. -/
theorem awaitRunning (h : Kind P) {base attempt left : Nat}
    (hpanic : Fleet.maxPause < base * (attempt + left - 1) →
      ∀ text, P (Task.panic text : Fleet.Action Unit)) (id : String) :
    P (Fleet.awaitRunning base id attempt left) := by
  induction left generalizing attempt with
  | zero =>
    unfold Fleet.awaitRunning
    refine h.bind (h.call _) fun c => ?_
    split
    · exact h.pure _
    · exact h.fail _
  | succ left ih =>
    unfold Fleet.awaitRunning
    refine h.bind (h.call _) fun c => ?_
    split
    · exact h.pure _
    · dsimp only
      split
      · next htoo =>
        have hlast : base * attempt ≤ base * (attempt + (left + 1) - 1) :=
          Nat.mul_le_mul_left base (by omega)
        exact hpanic (Nat.lt_of_lt_of_le htoo hlast) _
      · refine h.bind (h.ask rfl) fun _ => ih ?_
        rwa [show attempt + 1 + left - 1 = attempt + (left + 1) - 1 by omega]

theorem healthCheck (h : Kind P) {f : Fleet} {retries : UInt32}
    (hpanic : Fleet.maxPause < f.health.backoffBase.toNat * (retries.toNat - 1) →
      ∀ text, P (Task.panic text : Fleet.Action Unit)) (containers : List Container) :
    P (f.healthCheck retries containers) := by
  induction containers with
  | nil => exact h.pure _
  | cons c rest ih =>
    refine h.bind (h.awaitRunning ?_ c.id) fun _ => ih
    rwa [show 1 + (retries.toNat - 1) - 1 = retries.toNat - 1 by omega]

theorem stopIfRunning (h : Kind P) (c : Container) : P (Fleet.stopIfRunning c) := by
  unfold Fleet.stopIfRunning
  split
  · exact h.ifPresent (h.call _)
  · exact h.pure _

/-! ## Steps -/

theorem step (h : Kind P) {x : StepAction ν α} {f : α → StepAction ν β} (hx : ∀ v, P (x.task v))
    (hf : ∀ a v, P ((f a).task v)) (v : ν) : P ((x >>= f).task v) := by
  rw [StepAction.task_bind]
  exact h.bind (hx v) fun r => hf r.1 r.2

theorem during (h : Kind P) {a : Fleet.Action α} (ha : P a) (v : ν) :
    P ((Fleet.during a : StepAction ν α).task v) := by
  rw [StepAction.task_during]
  exact h.bind ha fun _ => h.pure _

theorem forM (h : Kind P) {l : List α} {f : α → StepAction ν PUnit}
    (hf : ∀ a v, P ((f a).task v)) (v : ν) : P ((l.forM f).task v) := by
  induction l generalizing v with
  | nil => exact h.pure _
  | cons a rest ih => exact h.step (hf a) (fun _ => ih) v

theorem createMany (h : Kind P) (f : Fleet) (n : Nat) (r : Rollout) :
    P ((Rollout.createMany f n).task r) := by
  induction n generalizing r with
  | zero => exact h.pure _
  | succ n ih =>
    exact h.step (fun _ => h.pure _) (fun _ => h.step (h.during (h.create f _)) fun _ =>
      h.step (fun _ => h.pure _) fun _ => ih) r

/-- The steps of a workflow are named steps that are of a kind. -/
def Steps (P : ∀ {ε α : Type}, Task ε α → Prop) (steps : List (Step Program ContainerError ν)) : Prop :=
  ∀ step ∈ steps, ∃ name x, step = Fleet.step name x ∧ ∀ v, P (x.task v)

theorem rollout (h : Kind P) {f : Fleet}
    (hpanic : Fleet.maxPause < f.health.backoffBase.toNat * (f.health.retries.toNat - 1) →
      ∀ text, P (Task.panic text : Fleet.Action Unit)) : Steps P (Rollout.workflow f).steps := by
  have fetch : ∀ r, P (Rollout.fetchCurrent.task r) := h.step (fun _ => h.pure _) fun _ =>
    h.step (h.during (h.call _)) fun _ _ => h.pure _
  have pull : ∀ r, P (Rollout.pullImage.task r) := h.step (fun _ => h.pure _) fun _ => h.during (h.call _)
  have create : ∀ r, P ((Rollout.createContainers f).task r) := h.step (fun _ => h.pure _) fun _ =>
    h.createMany f _
  have start : ∀ r, P (Rollout.startContainers.task r) := h.step (fun _ => h.pure _) fun _ =>
    h.forM fun _ => h.during (h.call _)
  have check : ∀ r, P ((Rollout.checkHealth f).task r) := h.step (fun _ => h.pure _) fun _ =>
    h.during (h.healthCheck hpanic _)
  have remove : ∀ r, P (Rollout.removeOld.task r) := h.step (fun _ => h.pure _) fun _ => h.forM fun c =>
    h.step (h.during (h.stopIfRunning c)) fun _ => h.during (h.ifPresent (h.call _))
  intro step hstep
  simp only [Rollout.workflow, List.mem_cons, List.not_mem_nil, or_false] at hstep
  rcases hstep with rfl | rfl | rfl | rfl | rfl | rfl
  · exact ⟨_, _, rfl, fetch⟩
  · exact ⟨_, _, rfl, pull⟩
  · exact ⟨_, _, rfl, create⟩
  · exact ⟨_, _, rfl, start⟩
  · exact ⟨_, _, rfl, check⟩
  · exact ⟨_, _, rfl, remove⟩

theorem teardown (h : Kind P) : Steps P Teardown.workflow.steps := by
  have fetch : ∀ t, P (Teardown.fetchCurrent.task t) := h.step (fun _ => h.pure _) fun _ =>
    h.step (h.during (h.call _)) fun _ _ => h.pure _
  have stop : ∀ t, P (Teardown.stopContainers.task t) := h.step (fun _ => h.pure _) fun _ =>
    h.forM fun c => h.during (h.stopIfRunning c)
  have remove : ∀ t, P (Teardown.removeContainers.task t) := h.step (fun _ => h.pure _) fun _ =>
    h.forM fun _ => h.during (h.ifPresent (h.call _))
  intro step hstep
  simp only [Teardown.workflow, List.mem_cons, List.not_mem_nil, or_false] at hstep
  rcases hstep with rfl | rfl | rfl
  · exact ⟨_, _, rfl, fetch⟩
  · exact ⟨_, _, rfl, stop⟩
  · exact ⟨_, _, rfl, remove⟩

end Task.Kind

end Orchestrator
