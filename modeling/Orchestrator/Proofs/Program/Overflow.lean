import Orchestrator.Daemon.Basic
import Orchestrator.Proofs.Program.Panics

/-!
# When an attempt panics by itself

As long as no call panics, the steps of an attempt fail with errors only, but for one arithmetic
operation: the pause between two looks at a container grows with each look, and may become longer than
the longest time there is. It does in some attempt just if it would before the last look that the
policy allows. Main statement: `Executor.never_panics_iff`.
-/
namespace Orchestrator

/-- Every engine whose calls do not panic. -/
def Setting.unpanicked : Setting Unit where
  allowed _ _ := True
  answers r _ a _ := Exchange.panic? ⟨r, a⟩ = none

theorem Trace.panics_eq_nil {t : Trace} : t.panics = [] ↔ ∀ x ∈ t, x.panic? = none := by
  simp [panics]

/-- What is shown of a program in a setting without memory holds after every trace of answers that the
setting allows. -/
theorem Program.Meets.after {α : Type} {w : Setting Unit} {post : α → Unit → Prop} {p q : Program α}
    {t : Trace} (h : p.Meets w post ()) (hfollows : p.Follows t q)
    (ht : ∀ x ∈ t, w.answers x.request () x.answer ()) : q.Meets w post () := by
  induction hfollows with
  | here p => exact h
  | answered _ ih =>
    exact ih (h.2 _ () (ht _ List.mem_cons_self)) fun x hx => ht x (List.mem_cons_of_mem _ hx)

/-! ## Tasks that do not panic -/

/-- As long as no call panics the task fails with errors only. -/
def Task.Sober {ε α : Type} (t : Task ε α) : Prop :=
  t.Meets .unpanicked (fun _ _ => True) (fun f _ => ∃ e, f = .error e) ()

theorem Task.sober_kind : Task.Kind Task.Sober where
  pure _ := trivial
  fail e := ⟨e, rfl⟩
  bind ht hf := meets_bind.2 (ht.mono (fun a _ _ => hf a) fun _ _ h => h)
  ifPresent ha := Fleet.meets_ifPresent.2 (ha.mono (fun _ _ h => h) fun f _ ⟨e, he⟩ => by
    subst he
    dsimp only
    split
    · trivial
    · exact ⟨e, rfl⟩)
  ask _ := ⟨trivial, fun _ _ _ => trivial⟩
  call c := Fleet.meets_call.2 ⟨trivial, fun reply _ hreply => by
    rcases reply with (e | text) | _
    · exact ⟨.engine e, rfl⟩
    · cases hreply
    · trivial⟩

/-- A workflow of sober steps fails with the error of one of them. -/
theorem Workflow.runSteps_sober {ν : Type} {workflow : String}
    {steps : List (Step Program ContainerError ν)} {job : Job} (hsteps : Task.Kind.Steps Task.Sober steps)
    (v : ν) : (runSteps workflow job.announceStep steps v).Meets .unpanicked
      (fun r _ => ∀ e, r.1 = .error e → ∃ step cause, e = .failed workflow step cause) () := by
  induction steps generalizing v with
  | nil => exact fun _ => nofun
  | cons step rest ih =>
    obtain ⟨name, x, rfl, hx⟩ := hsteps step List.mem_cons_self
    refine meets_runSteps_cons.2 ⟨trivial, fun _ _ _ => Program.meets_done.2 ?_⟩
    refine (StepAction.meets_task.1 (hx v)).mono (fun _ v' _ _ => ?_) fun f _ _ ⟨cause, hf⟩ => ?_
    · exact ih (fun s hs => hsteps s (List.mem_cons_of_mem _ hs)) v'
    · rintro e ⟨⟩
      exact ⟨name, cause, by rw [hf]; rfl⟩

/-- Has an attempt ended in a panic, of its own or of one of its steps? -/
def Executor.Panicked (result : Except (Failure JobError) Unit) : Prop :=
  (∃ text, result = .error (.panic text)) ∨
    ∃ workflow step message, result = .error (.error (.workflow (.panicked workflow step message)))

theorem Executor.sober_performWorkflow {f : Fleet} (j : Job)
    (h : f.health.backoffBase.toNat * (f.health.retries.toNat - 1) ≤ Fleet.maxPause) :
    (performWorkflow f j).Meets .unpanicked (fun r _ => ¬ Panicked r.1) () := by
  have sober (workflow : String) (r : Except (StepError ContainerError) Unit)
      (hr : ∀ e, r = .error e → ∃ step cause, e = .failed workflow step cause) :
      ¬ Panicked (r.mapError fun e => .error (Job.attemptError e)) := by
    cases r with
    | ok _ => rintro (⟨_, ⟨⟩⟩ | ⟨_, _, _, ⟨⟩⟩)
    | error e =>
      obtain ⟨step, cause, rfl⟩ := hr e rfl
      rintro (⟨_, ⟨⟩⟩ | ⟨_, _, _, ⟨⟩⟩)
  refine Program.meets_bind.2 ?_
  unfold Job.attempt
  cases j.work with
  | create config current new =>
    refine Program.meets_bind.2 (Program.Meets.mono (Workflow.runSteps_sober
      (Task.sober_kind.rollout fun hlong => absurd h (Nat.not_le.2 hlong)) _) fun r _ hr => ?_)
    exact sober _ r.1 hr
  | delete config current =>
    refine Program.meets_bind.2 (Program.Meets.mono (Workflow.runSteps_sober Task.sober_kind.teardown _)
      fun r _ hr => ?_)
    exact sober _ r.1 hr

/-! ## A container that never runs -/

/-- The answers that are given by a function. -/
def Setting.givenBy (serve : (r : Request) → r.Answer) : Setting Unit where
  allowed _ _ := True
  answers r _ a _ := a = serve r

/-- Some trace holds the answers that are given by a function, up to the end of the program. -/
theorem Program.Meets.reached {α : Type} {serve : (r : Request) → r.Answer} {post : α → Unit → Prop}
    {p : Program α} (h : p.Meets (.givenBy serve) post ()) :
    ∃ t a, p.Follows t (.done a) ∧ post a () ∧ ∀ x ∈ t, x.answer = serve x.request := by
  induction p with
  | done a => exact ⟨[], a, .here _, h, List.forall_mem_nil _⟩
  | ask r next ih =>
    obtain ⟨t, a, ht, ha, hanswers⟩ := ih (serve r) (h.2 _ () rfl)
    exact ⟨⟨r, serve r⟩ :: t, a, .answered ht, ha, List.forall_mem_cons.2 ⟨rfl, hanswers⟩⟩

namespace Stubborn

/-- A container that was created and never starts. -/
def container : Container :=
  Engine.Memory.newContainer (Fleet.specFor {} (Deployment.new "api" "nginx") "api-1" []) "c1" .epoch

/-- An engine on which every call succeeds, and the containers of `container` stay as they were
created. -/
def reply : (c : Engine.Call) → c.Value
  | .pull _ => ()
  | .create _ => container.id
  | .start _ => ()
  | .stop .. => ()
  | .remove .. => ()
  | .list .. => []
  | .inspect _ => container
  | .network name => some ⟨"net1", name⟩
  | .createNetwork name => ⟨"net1", name⟩
  | .connect .. => ()

def serve : (r : Request) → r.Answer
  | .engine c => .ok (reply c)
  | .secret .. => .error .undecodable
  | .suffix => "1"
  | .pause _ => ()
  | .announce .. => ()
  | .isBusy _ => false
  | .offer .. => .error .queueClosed

theorem panic?_serve (r : Request) : Exchange.panic? ⟨r, serve r⟩ = none := by
  cases r <;> rfl

theorem meets_call {c : Engine.Call} {good : c.Value → Unit → Prop}
    {bad : Failure ContainerError → Unit → Prop} (h : good (reply c) ()) :
    (Fleet.call c).Meets (.givenBy serve) good bad () :=
  Fleet.meets_call.2 ⟨trivial, fun answer _ hanswer => by
    obtain rfl : answer = .ok (reply c) := hanswer
    exact h⟩

/-- A wait for the container meets the first pause that is too long. -/
theorem awaitRunning_panics {base attempt left : Nat} (hbefore : base * (attempt - 1) ≤ Fleet.maxPause)
    (hlast : Fleet.maxPause < base * (attempt + left - 1)) (id : String) :
    (Fleet.awaitRunning base id attempt left).Meets (.givenBy serve) (fun _ _ => False)
      (fun f _ => ∃ text, f = .panic text) () := by
  induction left generalizing attempt with
  | zero => exact absurd hlast (Nat.not_lt.2 hbefore)
  | succ left ih =>
    unfold Fleet.awaitRunning
    refine Task.meets_bind.2 (meets_call ?_)
    rw [if_neg (show (reply (.inspect id)).state ≠ .running from fun h => by cases h)]
    dsimp only
    split
    · exact ⟨_, rfl⟩
    · next hfits =>
      refine Task.meets_bind.2 ⟨trivial, fun _ _ _ => ih ?_ ?_⟩
      · simpa using hfits
      · rwa [show attempt + 1 + left - 1 = attempt + (left + 1) - 1 by omega]

/-- A deployment of one container without secrets. -/
def deployment : Deployment := Deployment.new "api" "nginx"

/-- The job that rolls it out. -/
def rollout : Job := Job.create ⟨0⟩ .epoch deployment 1

theorem create_meets (f : Fleet) :
    (f.create deployment).Meets (.givenBy serve) (fun c _ => c = container) (fun _ _ => False) () := by
  have network {good : Engine.Network → Unit → Prop} {bad : Failure ContainerError → Unit → Prop}
      (h : good ⟨"net1", f.network⟩ ()) : f.ensureNetwork.Meets (.givenBy serve) good bad () :=
    Task.meets_bind.2 (meets_call h)
  have spec {good : Engine.ContainerSpec → Unit → Prop} {bad : Failure ContainerError → Unit → Prop}
      (h : ∀ spec, good spec ()) : (f.spec deployment).Meets (.givenBy serve) good bad () :=
    Task.meets_bind.2 ⟨trivial, fun _ _ _ => h _⟩
  exact Task.meets_bind.2 (network (Task.meets_bind.2 (spec fun _ => Task.meets_bind.2 (meets_call
    (Task.meets_bind.2 (meets_call (meets_call rfl)))))))

/-- Its attempt panics if the last pause of its health check is too long. -/
theorem performWorkflow_panics {f : Fleet}
    (h : Fleet.maxPause < f.health.backoffBase.toNat * (f.health.retries.toNat - 1)) :
    (Executor.performWorkflow f rollout).Meets (.givenBy serve) (fun r _ => Executor.Panicked r.1) () := by
  have check : (Rollout.checkHealth f).Meets (.givenBy serve) (fun _ _ _ => False)
      (fun e _ _ => ∃ text, e = .panic text) ⟨deployment, [], [container]⟩ () := by
    refine StepAction.meets_bind.2 (StepAction.meets_get.2 (StepAction.meets_during.2
      (Task.meets_bind.2 ?_)))
    refine (awaitRunning_panics (by simp) ?_ _).mono (fun _ _ => False.elim) fun _ _ h => h
    rwa [show 1 + (f.health.retries.toNat - 1) - 1 = f.health.retries.toNat - 1 by omega]
  have step {name : String} {x : StepAction Rollout Unit} {rest : List (Step Program ContainerError Rollout)}
      {r r' : Rollout} {post : Except (StepError ContainerError) Unit × Rollout → Unit → Prop}
      (hx : x.Meets (.givenBy serve) (fun _ v _ => v = r') (fun _ _ _ => False) r ())
      (hrest : (Workflow.runSteps "create" rollout.announceStep rest r').Meets (.givenBy serve) post ()) :
      (Workflow.runSteps "create" rollout.announceStep (Fleet.step name x :: rest) r).Meets
        (.givenBy serve) post () :=
    Workflow.meets_runSteps_cons.2 ⟨trivial, fun _ _ _ => Program.meets_done.2
      (hx.mono (fun _ _ _ hv => hv ▸ hrest) fun _ _ _ => False.elim)⟩
  have fetch : Rollout.fetchCurrent.Meets (.givenBy serve) (fun _ r _ => r = ⟨deployment, [], []⟩)
      (fun _ _ _ => False) ⟨deployment, [], []⟩ () := 
    StepAction.meets_bind.2 (StepAction.meets_get.2 (StepAction.meets_bind.2
      (StepAction.meets_during.2 (meets_call rfl))))
  have pull : Rollout.pullImage.Meets (.givenBy serve) (fun _ r _ => r = ⟨deployment, [], []⟩)
      (fun _ _ _ => False) ⟨deployment, [], []⟩ () :=
    StepAction.meets_bind.2 (StepAction.meets_get.2 (StepAction.meets_during.2 (meets_call rfl)))
  have create : (Rollout.createContainers f).Meets (.givenBy serve)
      (fun _ r _ => r = ⟨deployment, [], [container]⟩) (fun _ _ _ => False) ⟨deployment, [], []⟩ () :=
    StepAction.meets_bind.2 (StepAction.meets_get.2 (StepAction.meets_bind.2 (StepAction.meets_get.2
      (StepAction.meets_bind.2 (StepAction.meets_during.2 ((create_meets f).mono
        (fun _ _ hc => hc ▸ rfl) fun _ _ => False.elim))))))
  have start : Rollout.startContainers.Meets (.givenBy serve)
      (fun _ r _ => r = ⟨deployment, [], [container]⟩) (fun _ _ _ => False)
      ⟨deployment, [], [container]⟩ () :=
    StepAction.meets_bind.2 (StepAction.meets_get.2 (StepAction.meets_bind.2
      (StepAction.meets_during.2 (meets_call rfl))))
  refine Program.meets_bind.2 (Program.meets_bind.2 ?_)
  refine step fetch (step pull (step create (step start ?_)))
  refine Workflow.meets_runSteps_cons.2 ⟨trivial, fun _ _ _ => Program.meets_done.2
    (check.mono (fun _ _ _ => False.elim) ?_)⟩
  rintro _ r _ ⟨text, rfl⟩
  exact .inr ⟨_, _, _, rfl⟩

end Stubborn

/-- If the last pause is too long, some attempt panics though no call does. -/
theorem Executor.exists_panicked {f : Fleet}
    (h : Fleet.maxPause < f.health.backoffBase.toNat * (f.health.retries.toNat - 1)) :
    ∃ j t r, (performWorkflow f j).Follows t (.done r) ∧ t.panics = [] ∧ Panicked r.1 := by
  obtain ⟨t, r, hfollows, hpanicked, hanswers⟩ := (Stubborn.performWorkflow_panics h).reached
  refine ⟨Stubborn.rollout, t, r, hfollows, Trace.panics_eq_nil.2 fun x hx => ?_, hpanicked⟩
  obtain ⟨request, answer⟩ := x
  obtain rfl : answer = Stubborn.serve request := hanswers _ hx
  exact Stubborn.panic?_serve request

/-- As long as no call panics, no attempt of any job ends in a panic, just if the pause before the last
look that the health policy allows is not too long. -/
theorem Executor.never_panics_iff (f : Fleet) :
    (∀ j t r, (performWorkflow f j).Follows t (.done r) → t.panics = [] → ¬ Panicked r.1) ↔
      f.health.backoffBase.toNat * (f.health.retries.toNat - 1) ≤ Fleet.maxPause := by
  constructor
  · refine fun h => Nat.le_of_not_lt fun hlong => ?_
    obtain ⟨j, t, r, hfollows, ht, hpanicked⟩ := exists_panicked hlong
    exact h j t r hfollows ht hpanicked
  · intro h j t r hfollows ht
    exact (sober_performWorkflow j h).after hfollows (Trace.panics_eq_nil.1 ht)

end Orchestrator
