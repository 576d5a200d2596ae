import Orchestrator.Proofs.Program.Setting

/-!
# Properties of programs that are put together

A property is closed if a program has it whose parts have it; tasks, steps and workflows then have it as
their parts do. If besides whoever makes one plain request has it, and whoever creates one container,
then all steps of rollouts and teardowns have it: `Composed.rollout`, `Composed.teardown`.
-/
namespace Orchestrator

/-- Is the request one of an engine, but not for a container to be made, or one that is answered without
a look at queue and store? -/
def Request.isPlain : Request → Bool
  | .engine (.create _) | .secret .. | .isBusy _ | .offer .. => false
  | _ => true

/-- Is the request one of those that it takes to create a container? -/
def Request.isForCreation : Request → Bool
  | .secret .. | .suffix => true
  | .engine (.network _) | .engine (.createNetwork _) | .engine (.create _) => true
  | .engine (.connect ..) | .engine (.inspect _) => true
  | _ => false

/-- A property that programs have which are put together of programs that have it. -/
structure Program.Closed (P : ∀ {α : Type}, Program α → Prop) : Prop where
  done {α : Type} (a : α) : P (Program.done a)
  bind {α β : Type} {p : Program α} {f : α → Program β} : P p → (∀ a, P (f a)) → P (p >>= f)

/-- Such a property that the parts of rollouts and teardowns have. -/
structure Program.Composed (P : ∀ {α : Type}, Program α → Prop) : Prop extends Program.Closed P where
  request {r : Request} : r.isPlain = true → P (Program.request r)
  create (f : Fleet) (d : Deployment) : P (f.create d).run

variable {P : ∀ {α : Type}, Program α → Prop} {α β ε δ ν : Type}

/-! ## Programs of any kind -/

namespace Program.Closed

theorem map (h : Closed P) {p : Program α} (f : α → β) (hp : P p) : P (f <$> p) := by
  rw [map_eq_pure_bind]
  exact h.bind hp fun _ => h.done _

theorem task (h : Closed P) {t : Task ε α} {f : α → Task ε β} (ht : P t.run)
    (hf : ∀ a, P (f a).run) : P (t >>= f).run := by
  rw [ExceptT.run_bind]
  refine h.bind ht fun r => ?_
  cases r with
  | ok a => exact hf a
  | error e => exact h.done _

theorem ask (h : Closed P) {r : Request} (hr : P (Program.request r)) :
    P (Task.ask r : Task ε r.Answer).run :=
  h.map _ hr

theorem call (h : Closed P) {c : Engine.Call} (hc : P (Program.request (.engine c))) :
    P (Fleet.call c).run :=
  h.map _ hc

/-- To find the network or to create it takes two requests. -/
theorem ensureNetwork (h : Closed P) (f : Fleet)
    (hfind : P (Program.request (.engine (.network f.network))))
    (hmake : P (Program.request (.engine (.createNetwork f.network)))) : P f.ensureNetwork.run := by
  refine h.task (h.call hfind) fun found => ?_
  cases found with
  | none => exact h.call hmake
  | some network => exact h.done _

theorem resolve (h : Closed P) (hsecret : ∀ d key, P (Program.request (.secret d key))) (d : String)
    (secrets : List (String × String)) : P (Fleet.resolve d secrets).run := by
  induction secrets with
  | nil => exact h.done _
  | cons entry rest ih =>
    refine h.task (h.ask (hsecret _ _)) fun found => ?_
    split
    · exact h.task ih fun _ => h.done _
    · exact ih
    · exact h.done _

theorem create (h : Closed P)
    (hrequest : ∀ {r : Request}, r.isForCreation = true → P (Program.request r)) (f : Fleet)
    (d : Deployment) : P (f.create d).run := by
  have env : P (Fleet.resolveEnv d).run :=
    h.task (h.resolve (fun _ _ => hrequest rfl) _ _) fun _ => h.done _
  have spec : P (f.spec d).run := h.task env fun _ => h.task (h.ask (hrequest rfl)) fun _ => h.done _
  exact h.task (h.ensureNetwork f (hrequest rfl) (hrequest rfl)) fun _ => h.task spec fun _ =>
    h.task (h.call (hrequest rfl)) fun _ => h.task (h.call (hrequest rfl)) fun _ =>
      h.call (hrequest rfl)

/-- To wait for a container takes looks at it and pauses. -/
theorem awaitRunning (h : Closed P) (hlook : ∀ id, P (Program.request (.engine (.inspect id))))
    (hpause : ∀ n, P (Program.request (.pause n))) (base : Nat) (id : String) (attempt left : Nat) :
    P (Fleet.awaitRunning base id attempt left).run := by
  induction left generalizing attempt with
  | zero =>
    unfold Fleet.awaitRunning
    refine h.task (h.call (hlook id)) fun c => ?_
    split <;> exact h.done _
  | succ left ih =>
    unfold Fleet.awaitRunning
    refine h.task (h.call (hlook id)) fun c => ?_
    split
    · exact h.done _
    · dsimp only
      split
      · exact h.done _
      · exact h.task (h.ask (hpause _)) fun _ => ih _

theorem healthCheck (h : Closed P) (hlook : ∀ id, P (Program.request (.engine (.inspect id))))
    (hpause : ∀ n, P (Program.request (.pause n))) (f : Fleet) (retries : UInt32)
    (containers : List Container) : P (f.healthCheck retries containers).run := by
  induction containers with
  | nil => exact h.done _
  | cons c rest ih => exact h.task (h.awaitRunning hlook hpause ..) fun _ => ih

theorem ifPresent (h : Closed P) {a : Fleet.Action Unit} (ha : P a.run) : P (Fleet.ifPresent a).run := by
  refine h.bind ha fun r => ?_
  rcases r with (e | text) | _
  · dsimp only
    split <;> exact h.done _
  · exact h.done _
  · exact h.done _

theorem step (h : Closed P) {x : StepAction ν α} {f : α → StepAction ν β} (hx : ∀ v, P (x.run v))
    (hf : ∀ a v, P ((f a).run v)) (v : ν) : P ((x >>= f).run v) := by
  rw [StepAction.run_bind]
  refine h.bind (hx v) fun ⟨r, v'⟩ => ?_
  cases r with
  | ok a => exact hf a v'
  | error e => exact h.done _

theorem during (h : Closed P) {a : Fleet.Action α} (ha : P a.run) (v : ν) :
    P ((Fleet.during a : StepAction ν α).run v) :=
  h.map _ ha

theorem forM (h : Closed P) {l : List α} {f : α → StepAction ν PUnit} (hf : ∀ a v, P ((f a).run v))
    (v : ν) : P ((l.forM f).run v) := by
  induction l generalizing v with
  | nil => exact h.done _
  | cons a rest ih => exact h.step (hf a) (fun _ => ih) v

theorem runSteps (h : Closed P) (workflow : String) {observe : String → Program Unit}
    {steps : List (Step Program ContainerError ν)} (hobserve : ∀ name, P (observe name))
    (hsteps : ∀ step ∈ steps, ∀ v, P (step.action v)) (v : ν) :
    P (Workflow.runSteps workflow observe steps v) := by
  induction steps generalizing v with
  | nil => exact h.done _
  | cons step rest ih =>
    refine h.bind (hobserve _) fun _ => h.bind (hsteps step List.mem_cons_self v) fun ⟨outcome, v'⟩ => ?_
    cases outcome with
    | ok _ => exact ih (fun step h => hsteps step (List.mem_cons_of_mem _ h)) v'
    | error _ => exact h.done _

end Program.Closed

/-! ## The parts of rollouts and teardowns -/

namespace Program.Composed

theorem plainCall (h : Composed P) {c : Engine.Call} (hc : (Request.engine c).isPlain = true) :
    P (Fleet.call c).run :=
  h.call (h.request hc)

theorem stopIfRunning (h : Composed P) (c : Container) : P (Fleet.stopIfRunning c).run := by
  unfold Fleet.stopIfRunning
  split
  · exact h.ifPresent (h.plainCall rfl)
  · exact h.done _

theorem createMany (h : Composed P) (f : Fleet) (n : Nat) (r : Rollout) :
    P ((Rollout.createMany f n).run r) := by
  induction n generalizing r with
  | zero => exact h.done _
  | succ n ih =>
    exact h.step (fun _ => h.done _) (fun _ => h.step (h.during (h.create f _)) fun _ =>
      h.step (fun _ => h.done _) fun _ => ih) r

theorem rollout (h : Composed P) (f : Fleet) :
    ∀ step ∈ (Rollout.workflow f).steps, ∀ r, P (step.action r) := by
  have fetch : ∀ r, P (Rollout.fetchCurrent.run r) := h.step (fun _ => h.done _) fun _ =>
    h.step (h.during (h.plainCall rfl)) fun _ _ => h.done _
  have pull : ∀ r, P (Rollout.pullImage.run r) := h.step (fun _ => h.done _) fun _ =>
    h.during (h.plainCall rfl)
  have create : ∀ r, P ((Rollout.createContainers f).run r) := h.step (fun _ => h.done _) fun _ =>
    h.createMany f _
  have start : ∀ r, P (Rollout.startContainers.run r) := h.step (fun _ => h.done _) fun _ =>
    h.forM fun _ => h.during (h.plainCall rfl)
  have check : ∀ r, P ((Rollout.checkHealth f).run r) := h.step (fun _ => h.done _) fun _ =>
    h.during (h.healthCheck (fun _ => h.request rfl) (fun _ => h.request rfl) ..)
  have remove : ∀ r, P (Rollout.removeOld.run r) := h.step (fun _ => h.done _) fun _ =>
    h.forM fun c => h.step (h.during (h.stopIfRunning c)) fun _ => h.during (h.ifPresent (h.plainCall rfl))
  intro step hstep
  simp only [Rollout.workflow, List.mem_cons, List.not_mem_nil, or_false] at hstep
  rcases hstep with rfl | rfl | rfl | rfl | rfl | rfl
  · exact fetch
  · exact pull
  · exact create
  · exact start
  · exact check
  · exact remove

theorem teardown (h : Composed P) : ∀ step ∈ Teardown.workflow.steps, ∀ t, P (step.action t) := by
  have fetch : ∀ t, P (Teardown.fetchCurrent.run t) := h.step (fun _ => h.done _) fun _ =>
    h.step (h.during (h.plainCall rfl)) fun _ _ => h.done _
  have stop : ∀ t, P (Teardown.stopContainers.run t) := h.step (fun _ => h.done _) fun _ =>
    h.forM fun c => h.during (h.stopIfRunning c)
  have remove : ∀ t, P (Teardown.removeContainers.run t) := h.step (fun _ => h.done _) fun _ =>
    h.forM fun _ => h.during (h.ifPresent (h.plainCall rfl))
  intro step hstep
  simp only [Teardown.workflow, List.mem_cons, List.not_mem_nil, or_false] at hstep
  rcases hstep with rfl | rfl | rfl
  · exact fetch
  · exact stop
  · exact remove

end Program.Composed

end Orchestrator
