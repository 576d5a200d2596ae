import Orchestrator.Daemon.Basic
import Orchestrator.Proofs.Program.Composed
import Orchestrator.Proofs.Program.Trace

/-!
# Attempts begin afresh

A job keeps the containers that its last attempt listed and made. The next attempt looks at none of
them: before anything else it lists the deployment's containers itself, and from then on it works with
the answer. So the attempt is that of the job without those lists (`Job.attempt_emptied`), and what it
stops and removes are containers that its own listing showed (`Job.attempt_grounded`).

Main statement: `Executor.begins_afresh`.
-/
namespace Orchestrator

open Fleet

/-- The work without the containers that an attempt left in it. -/
def Work.emptied : Work → Work
  | .create config _ _ => .create config [] []
  | .delete config _ => .delete config []

/-- The job without the containers that an attempt left in it. -/
def Job.emptied (j : Job) : Job := { j with work := j.work.emptied }

/-! ## Nothing is remembered -/

/-- A step that asks for something and puts the answer into what it works on. -/
def StepAction.fetch {ν γ : Type} (a : ν → Action γ) (put : ν → γ → ν) : StepAction ν Unit := do
  let v ← get
  let c ← during (a v)
  set (put v c)

theorem StepAction.run_fetch {ν γ : Type} (a : ν → Action γ) (put : ν → γ → ν) (v : ν) :
    (fetch a put).run v = (a v).run >>= fun r => match r with
      | .ok c => pure (.ok (), put v c)
      | .error f => pure (.error f, v) := by
  unfold fetch
  rw [run_bind]
  change (during (a v) >>= fun c => set (put v c) : StepAction ν Unit).run v = _
  rw [run_bind]
  change ((fun r => (r, v)) <$> (a v).run >>= _) = _
  simp only [map_eq_pure_bind, bind_assoc, pure_bind]
  refine bind_congr fun r => ?_
  cases r <;> rfl

/-- A workflow whose first step is such a step. -/
theorem Workflow.runSteps_fetch {ν γ : Type} {workflow name : String} {observe : String → Program Unit}
    {rest : List (Step Program ContainerError ν)} (a : ν → Action γ) (put : ν → γ → ν) (v : ν) :
    runSteps workflow observe (Fleet.step name (.fetch a put) :: rest) v
      = observe name >>= fun _ => (a v).run >>= fun r => match r with
        | .ok c => runSteps workflow observe rest (put v c)
        | .error f => pure (.error (.ofFailure workflow name f), v) := by
  refine bind_congr fun _ => ?_
  change ((StepAction.fetch a put).run v >>= _) = _
  rw [StepAction.run_fetch, bind_assoc]
  refine bind_congr fun r => ?_
  cases r <;> rfl

theorem Rollout.fetchCurrent_eq :
    fetchCurrent = .fetch (fun r => listOwned r.config.name) fun r l => ⟨r.config, l, []⟩ := rfl

theorem Teardown.fetchCurrent_eq :
    fetchCurrent = .fetch (fun t => listOwned t.config.name) fun t l => ⟨t.config, l⟩ := rfl

/-- How an attempt ends, and what it leaves of its job but for the containers, do not depend on the
containers that were left before. -/
theorem Job.attempt_emptied (f : Fleet) (j : Job) :
    (fun r => (r.1, r.2.emptied)) <$> j.attempt f
      = (fun r => (r.1, r.2.emptied)) <$> j.emptied.attempt f := by
  obtain ⟨id, scope, work, attempts, status, enqueued, started, completed⟩ := j
  cases work with
  | create config current new =>
    simp only [Job.attempt, Job.emptied, Work.emptied, Workflow.runObserved, Rollout.workflow,
      Rollout.fetchCurrent_eq, Workflow.runSteps_fetch, map_bind, bind_assoc]
    refine bind_congr fun _ => bind_congr fun listed => ?_
    cases listed <;> rfl
  | delete config current =>
    simp only [Job.attempt, Job.emptied, Work.emptied, Workflow.runObserved, Teardown.workflow,
      Teardown.fetchCurrent_eq, Workflow.runSteps_fetch, map_bind, bind_assoc]
    refine bind_congr fun _ => bind_congr fun listed => ?_
    cases listed <;> rfl

/-! ## Nothing is ended that was not listed -/

/-- Does the trace show that the engine listed these as the containers of a deployment? -/
def Trace.Lists (t : Trace) (d : String) (l : List Container) : Prop :=
  ⟨.engine (.list Container.ownerLabel d), .ok l⟩ ∈ t

theorem Trace.Lists.concat {t : Trace} {d : String} {l : List Container} (h : t.Lists d l)
    (x : Exchange) : Trace.Lists (t ++ [x]) d l := List.mem_append_left _ h

/-- If a request stops or removes a container, the trace shows that it was listed. -/
def Request.Grounded (d : String) (r : Request) (t : Trace) : Prop :=
  ∀ id, r.ends? = some id → ∃ l, t.Lists d l ∧ id ∈ l.map Container.id

/-- Every engine, of which only listed containers of a deployment are ended. -/
abbrev Setting.grounded (d : String) : Setting Trace := .recording (Request.Grounded d)

namespace Program

variable {α : Type} {d : String} {l : List Container}

/-- Once these containers are listed the program ends no others. -/
def Grounded (d : String) (l : List Container) (p : Program α) : Prop :=
  ∀ t : Trace, t.Lists d l → p.Meets (.grounded d) (fun _ t' => t'.Lists d l) t

theorem grounded_request {r : Request} (h : ∀ id, r.ends? = some id → id ∈ l.map Container.id) :
    (Program.request r).Grounded d l := by
  refine fun t ht => ⟨fun id hid => ⟨l, ht, h id hid⟩, fun a t' ht' => ?_⟩
  rw [show t' = t ++ [⟨r, a⟩] from ht']
  exact ht.concat _

theorem grounded_harmless {r : Request} (h : r.ends? = none) : (Program.request r).Grounded d l :=
  grounded_request fun id hid => by
    rw [h] at hid
    cases hid

theorem grounded_closed (d : String) (l : List Container) : Closed (Grounded d l) where
  done _ := fun _ ht => ht
  bind hp hf := fun t ht => meets_bind.2 ((hp t ht).mono fun a t' ht' => hf a t' ht')

end Program

open Program

namespace StepAction

variable {ν α β : Type} {current : ν → List Container} {d : String} {l : List Container}

/-- A step works on these containers, and the trace shows that they were listed. -/
def Shown (current : ν → List Container) (d : String) (l : List Container) (v : ν) (t : Trace) : Prop :=
  current v = l ∧ t.Lists d l

/-- Once these containers are listed the step ends no others, and leaves it at these. -/
def Grounded (current : ν → List Container) (d : String) (l : List Container) (x : StepAction ν α) :
    Prop :=
  ∀ v t, Shown current d l v t →
    x.Meets (.grounded d) (fun _ => Shown current d l) (fun _ => Shown current d l) v t

theorem Grounded.bind {x : StepAction ν α} {f : α → StepAction ν β} (hx : x.Grounded current d l)
    (hf : ∀ a, (f a).Grounded current d l) : (x >>= f).Grounded current d l :=
  fun v t ht => meets_bind.2 ((hx v t ht).mono (fun a v' t' ht' => hf a v' t' ht') fun _ _ _ h => h)

theorem grounded_get {f : ν → StepAction ν β} (hf : ∀ v, current v = l → (f v).Grounded current d l) :
    (get >>= f).Grounded current d l :=
  fun v t ht => meets_bind.2 (meets_get.2 (hf v ht.1 v t ht))

theorem grounded_modify {f : ν → ν} (hf : ∀ v, current (f v) = current v) :
    (modify f : StepAction ν PUnit).Grounded current d l :=
  fun v _ ht => meets_modify.2 ⟨(hf v).trans ht.1, ht.2⟩

theorem grounded_during {a : Action α} (ha : a.run.Grounded d l) :
    (during a : StepAction ν α).Grounded current d l :=
  fun _ t ht => meets_during.2 ((ha t ht.2).mono fun r _ ht' => by
    cases r <;> exact ⟨ht.1, ht'⟩)

theorem grounded_forM {left : List β} {f : β → StepAction ν PUnit}
    (hf : ∀ b ∈ left, (f b).Grounded current d l) : (left.forM f).Grounded current d l := by
  induction left with
  | nil => exact fun _ _ ht => ht
  | cons b left ih =>
    exact (hf b List.mem_cons_self).bind fun _ => ih fun c hc => hf c (List.mem_cons_of_mem b hc)

end StepAction

section Endings

variable {d : String} {l : List Container} {c : Container}

theorem Fleet.grounded_stopIfRunning (hc : c ∈ l) : (stopIfRunning c).run.Grounded d l := by
  unfold stopIfRunning
  split
  · refine (grounded_closed d l).ifPresent ((grounded_closed d l).call (grounded_request ?_))
    rintro id ⟨⟩
    exact List.mem_map_of_mem hc
  · exact (grounded_closed d l).done _

theorem Fleet.grounded_removeIfPresent (hc : c ∈ l) : (removeIfPresent c).run.Grounded d l := by
  refine (grounded_closed d l).ifPresent ((grounded_closed d l).call (grounded_request ?_))
  rintro id ⟨⟩
  exact List.mem_map_of_mem hc

end Endings

open StepAction

theorem Rollout.grounded_createMany (f : Fleet) (d : String) (l : List Container) (n : Nat) :
    (createMany f n).Grounded Rollout.current d l := by
  have harmless {r : Request} (h : r.isForCreation = true) : (Program.request r).Grounded d l :=
    grounded_harmless (by
      unfold Request.isForCreation at h
      split at h <;> first | rfl | cases h)
  induction n with
  | zero => exact fun _ _ ht => ht
  | succ n ih =>
    refine grounded_get fun r _ => (grounded_during ((grounded_closed d l).create harmless f _)).bind
      fun c => ?_
    exact Grounded.bind (grounded_modify fun _ => rfl) fun _ => ih

/-- The steps of a workflow are named steps that end no containers but these. -/
def GroundedSteps {ν : Type} (current : ν → List Container) (d : String) (l : List Container)
    (steps : List (Step Program ContainerError ν)) : Prop :=
  ∀ step ∈ steps, ∃ name x, step = Fleet.step name x ∧ x.Grounded current d l

theorem Rollout.grounded_workflow (f : Fleet) (d : String) (l : List Container) :
    GroundedSteps Rollout.current d l (workflow f).steps.tail := by
  have closed := grounded_closed d l
  have harmless {c : Engine.Call} (h : (Request.engine c).ends? = none) :
      (Fleet.call c).run.Grounded d l := closed.call (grounded_harmless h)
  have pull : pullImage.Grounded Rollout.current d l := grounded_get fun _ _ => grounded_during (harmless rfl)
  have create : (createContainers f).Grounded Rollout.current d l := grounded_get fun _ _ =>
    grounded_createMany f d l _
  have start : startContainers.Grounded Rollout.current d l := grounded_get fun _ _ =>
    grounded_forM fun _ _ => grounded_during (harmless rfl)
  have check : (checkHealth f).Grounded Rollout.current d l := grounded_get fun _ _ =>
    grounded_during (closed.healthCheck (fun _ => grounded_harmless rfl) (fun _ => grounded_harmless rfl) _ _ _)
  have remove : removeOld.Grounded Rollout.current d l := grounded_get fun r hr =>
    grounded_forM fun c hc => (grounded_during (grounded_stopIfRunning (hr ▸ hc))).bind fun _ =>
      grounded_during (grounded_removeIfPresent (hr ▸ hc))
  intro step hstep
  simp only [workflow, List.tail_cons, List.mem_cons, List.not_mem_nil, or_false] at hstep
  rcases hstep with rfl | rfl | rfl | rfl | rfl
  · exact ⟨_, _, rfl, pull⟩
  · exact ⟨_, _, rfl, create⟩
  · exact ⟨_, _, rfl, start⟩
  · exact ⟨_, _, rfl, check⟩
  · exact ⟨_, _, rfl, remove⟩

theorem Teardown.grounded_workflow (d : String) (l : List Container) :
    GroundedSteps Teardown.current d l workflow.steps.tail := by
  have stop : stopContainers.Grounded Teardown.current d l := grounded_get fun t ht =>
    grounded_forM fun c hc => grounded_during (grounded_stopIfRunning (ht ▸ hc))
  have remove : removeContainers.Grounded Teardown.current d l := grounded_get fun t ht =>
    grounded_forM fun c hc => grounded_during (grounded_removeIfPresent (ht ▸ hc))
  intro step hstep
  simp only [workflow, List.tail_cons, List.mem_cons, List.not_mem_nil, or_false] at hstep
  rcases hstep with rfl | rfl
  · exact ⟨_, _, rfl, stop⟩
  · exact ⟨_, _, rfl, remove⟩

namespace Workflow

variable {ν : Type} {current : ν → List Container} {d workflow : String} {job : Job}
  {steps : List (Step Program ContainerError ν)}

theorem runSteps_grounded {l : List Container} (hsteps : GroundedSteps current d l steps) (v : ν)
    (t : Trace) (ht : Shown current d l v t) :
    (runSteps workflow job.announceStep steps v).Meets (.grounded d) (fun _ _ => True) t := by
  induction steps generalizing v t with
  | nil => trivial
  | cons step rest ih =>
    obtain ⟨name, x, rfl, hx⟩ := hsteps step List.mem_cons_self
    refine meets_runSteps_cons.2 ⟨fun _ => nofun, fun _ t' ht' => ?_⟩
    obtain rfl : t' = t ++ [Exchange.mk (.announce job.scope ⟨job.id, .step, name⟩) ()] := ht'
    exact (hx v _ ⟨ht.1, ht.2.concat _⟩).mono
      (fun _ v' u hu => ih (fun s hs => hsteps s (List.mem_cons_of_mem _ hs)) v' u hu)
      fun _ _ _ _ => trivial

/-- A workflow that begins with a listing ends no containers but the listed ones. -/
theorem runSteps_fetch_grounded (of : ν → String) {name : String} {put : ν → List Container → ν} {v : ν}
    {t : Trace} (hof : of v = d) (hput : ∀ l, current (put v l) = l)
    (hsteps : ∀ l, GroundedSteps current d l steps) :
    (runSteps workflow job.announceStep (Fleet.step name (.fetch (fun v => listOwned (of v)) put) :: steps)
      v).Meets (.grounded d) (fun _ _ => True) t := by
  subst hof
  refine meets_runSteps_cons.2 ⟨fun _ => nofun, fun _ t' _ => ?_⟩
  refine Program.meets_done.2 (StepAction.meets_bind.2 (meets_get.2 (StepAction.meets_bind.2
    (meets_during.2 (meets_call.2 ⟨fun _ => nofun, fun listed u hu => ?_⟩)))))
  obtain rfl : u = t' ++ [Exchange.mk (.engine (.list Container.ownerLabel (of v))) listed] := hu
  cases listed with
  | error f => trivial
  | ok l =>
    exact runSteps_grounded (hsteps l) _ _ ⟨hput l, List.mem_append_right _ (List.mem_singleton_self _)⟩

end Workflow

theorem Job.attempt_grounded (f : Fleet) (j : Job) :
    (j.attempt f).Meets (.grounded j.config.name) (fun _ _ => True) [] := by
  unfold Job.attempt Job.config
  cases j.work with
  | create config current new =>
    have run : ((Rollout.workflow f).runObserved j.announceStep ⟨config, current, new⟩).Meets
        (.grounded config.name) (fun _ _ => True) [] :=
      Workflow.runSteps_fetch_grounded (fun r : Rollout => r.config.name) rfl (fun _ => rfl)
        (Rollout.grounded_workflow f config.name)
    exact Program.meets_bind.2 run
  | delete config current =>
    have run : (Teardown.workflow.runObserved j.announceStep ⟨config, current⟩).Meets
        (.grounded config.name) (fun _ _ => True) [] :=
      Workflow.runSteps_fetch_grounded (fun t : Teardown => t.config.name) rfl (fun _ => rfl)
        (Teardown.grounded_workflow config.name)
    exact Program.meets_bind.2 run

namespace Executor

/-- However its requests are answered, an attempt makes those of an attempt of the job without the
containers in it, one after another, and ends as that one does; and the containers that it stops or
removes are among those that the engine listed for the deployment within this attempt. -/
theorem begins_afresh (f : Fleet) (j : Job) :
    (fun r => (r.1, r.2.emptied)) <$> performWorkflow f j
        = (fun r => (r.1, r.2.emptied)) <$> performWorkflow f j.emptied ∧
      ∀ t q id, (performWorkflow f j).Follows t q → q.ending? = some id →
        ∃ l, t.Lists j.config.name l ∧ id ∈ l.map Container.id := by
  refine ⟨?_, fun t q id hfollows hid => ?_⟩
  · have ended (j : Job) : (fun r => (r.1, r.2.emptied)) <$> performWorkflow f j
        = (fun r => (r.1.mapError fun e => .error (Job.attemptError e), r.2)) <$>
          (fun r => (r.1, r.2.emptied)) <$> j.attempt f := by
      simp only [performWorkflow, map_eq_pure_bind, bind_assoc, pure_bind]
    rw [ended, ended, j.attempt_emptied]
  · have hmeets : (performWorkflow f j).Meets (.grounded j.config.name) (fun _ _ => True) [] :=
      Program.meets_bind.2 (j.attempt_grounded f)
    cases q with
    | done r => cases hid
    | ask r next => exact (hmeets.follows hfollows).1 id hid

/-- A job that tears a deployment down, with a container in it that its last attempt listed. -/
def retriedTeardown : Job :=
  let d := Deployment.new "api" "nginx"
  let gone := Engine.Memory.newContainer (specFor {} d "api-9" []) "c9" .epoch
  { Job.delete ⟨0⟩ .epoch d 3 with work := .delete d [gone] }

/-- A daemon on which another container of the deployment runs. -/
def redeployed : Daemon where
  engine.memory.containers :=
    let spec := specFor {} (Deployment.new "api" "nginx") "api-1" []
    [⟨spec, { Engine.Memory.newContainer spec "c1" .epoch with state := .running }⟩]
  engine.memory.created := 1

/-- It stops the container that is there, which it was shown, and not the one that it was left. -/
theorem begins_afresh_retriedTeardown :
    let e := (performWorkflow {} retriedTeardown).exchanges Daemon.serve 3 redeployed
    e.2.ending? = some "c1" ∧ ∃ l, Trace.Lists e.1 "api" l ∧ "c1" ∈ l.map Container.id := by
  intro e
  have hend : e.2.ending? = some "c1" := by decide +kernel
  exact ⟨hend, (begins_afresh {} retriedTeardown).2 e.1 e.2 "c1" (Program.follows_exchanges ..) hend⟩

end Executor

end Orchestrator
