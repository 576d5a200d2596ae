import Orchestrator.Pool
import Orchestrator.Proofs.Program.Kinds
import Orchestrator.Proofs.Program.Trace

/-!
# A panic ends its attempt as a failure

However the engine answers the calls of an attempt, by values, errors or panics, the attempt never ends
in a panic. When a call panics, nothing more is asked, and the attempt fails with an error that names the
workflow, the step that was announced last, and the text of the panic.

Main statement: `Executor.contains_performWorkflow`.
-/
namespace Orchestrator

namespace Exchange

/-- The step that was announced. -/
def announced? : Exchange → Option String
  | ⟨.announce _ e, _⟩ => some e.message
  | _ => none

/-- The text of the panic that the engine answered with. -/
def panic? : Exchange → Option (Option String)
  | ⟨.engine _, .error (.panic text)⟩ => some text
  | _ => none

end Exchange

namespace Trace

/-- The step that was announced last. -/
def step? (t : Trace) : Option String := (t.filterMap Exchange.announced?).getLast?

/-- The texts of the panics that calls were answered with, in order. -/
def panics (t : Trace) : List (Option String) := t.filterMap Exchange.panic?

theorem step?_concat {t : Trace} {x : Exchange} (h : x.announced? = none) :
    step? (t ++ [x]) = step? t := by
  simp [step?, List.filterMap_append, h]

theorem step?_announce {t : Trace} {d : String} {e : Event} :
    step? (t ++ [⟨.announce d e, ()⟩]) = some e.message := by
  simp [step?, List.filterMap_append, Exchange.announced?]

theorem panics_concat {t : Trace} {x : Exchange} (h : x.panic? = none) :
    panics (t ++ [x]) = panics t := by
  simp [panics, List.filterMap_append, h]

theorem panics_panic {t : Trace} {c : Engine.Call} {text : Option String} (h : panics t = []) :
    panics (t ++ [⟨.engine c, .error (.panic text)⟩]) = [text] := by
  simp [panics, List.filterMap_append, Exchange.panic?] at h ⊢
  exact h

end Trace

/-- A trace goes on with the answer to what is asked next. -/
theorem Program.Follows.concat {α : Type} {p : Program α} {u : Trace} {r : Request}
    {next : r.Answer → Program α} (h : p.Follows u (.ask r next)) (a : r.Answer) :
    p.Follows (u ++ [⟨r, a⟩]) (next a) := by
  generalize hq : Program.ask r next = q at h
  induction h with
  | here p =>
    subst hq
    exact .answered (.here _)
  | answered _ ih => exact .answered (ih hq)

/-- Nothing is asked any more after a panic. -/
def Setting.untilPanic : Setting Trace := .recording fun _ t => t.panics = []

/-- A failure that came out of a trace: if a call panicked, it is that panic. -/
def Blames {ε : Type} (t : Trace) (f : Failure ε) : Prop := ∀ text ∈ t.panics, f = .panic text

theorem Blames.map {ε δ : Type} {t : Trace} {f : Failure ε} (h : Blames t f) (g : ε → δ) :
    Blames t (f.map g) := by
  intro text htext
  rw [h text htext]
  rfl

theorem Blames.panics {ε : Type} {t : Trace} {e : ε} (h : Blames t (.error e)) : t.panics = [] := by
  apply List.eq_nil_iff_forall_not_mem.2
  intro text htext
  cases h text htext

theorem blames_of_panics {ε : Type} {t : Trace} (h : t.panics = []) (f : Failure ε) : Blames t f := by
  intro text htext
  rw [h] at htext
  cases htext

/-! ## Tasks -/

namespace Task

variable {ε δ α β : Type}

/-- Within a step the task asks nothing after a panic, succeeds only if no call panicked, and fails with
the panic if one did. -/
def Prompt (t : Task ε α) : Prop :=
  ∀ u : Trace, u.panics = [] → t.Meets .untilPanic (fun _ v => v.panics = [] ∧ v.step? = u.step?)
    (fun f v => Blames v f ∧ v.step? = u.step?) u

theorem prompt_pure (a : α) : (pure a : Task ε α).Prompt := fun _ hu => ⟨hu, rfl⟩

theorem prompt_fail (e : ε) : (Task.fail e : Task ε α).Prompt := fun _ hu =>
  ⟨blames_of_panics hu _, rfl⟩

theorem prompt_panic (text : String) : (Task.panic text : Task ε α).Prompt := fun _ hu =>
  ⟨blames_of_panics hu _, rfl⟩

theorem Prompt.bind {t : Task ε α} {f : α → Task ε β} (ht : t.Prompt) (hf : ∀ a, (f a).Prompt) :
    (t >>= f).Prompt := by
  intro u hu
  rw [meets_bind]
  refine (ht u hu).mono (fun a v ⟨hv, hstep⟩ => ?_) fun _ _ h => h
  exact (hf a v hv).mono (fun _ _ h => ⟨h.1, h.2.trans hstep⟩) fun _ _ h => ⟨h.1, h.2.trans hstep⟩

theorem prompt_ask {r : Request} (hstep : ∀ a, Exchange.announced? ⟨r, a⟩ = none)
    (hpanic : ∀ a, Exchange.panic? ⟨r, a⟩ = none) : (Task.ask r : Task ε r.Answer).Prompt := by
  intro u hu
  rw [meets_ask]
  refine ⟨hu, fun a v hv => ?_⟩
  obtain rfl : v = u ++ [Exchange.mk r a] := hv
  exact ⟨(Trace.panics_concat (hpanic a)).trans hu, Trace.step?_concat (hstep a)⟩

end Task

namespace Fleet

open Orchestrator.Task

theorem prompt_call (c : Engine.Call) : (Fleet.call c).Prompt := by
  intro u hu
  rw [meets_call]
  refine ⟨hu, fun reply v hv => ?_⟩
  obtain rfl : v = u ++ [Exchange.mk (.engine c) reply] := hv
  have hstep : Trace.step? (u ++ [⟨.engine c, reply⟩]) = u.step? := Trace.step?_concat rfl
  match reply with
  | .ok value => exact ⟨(Trace.panics_concat rfl).trans hu, hstep⟩
  | .error (.error e) =>
    exact ⟨blames_of_panics ((Trace.panics_concat rfl).trans hu) _, hstep⟩
  | .error (.panic text) =>
    refine ⟨fun text' htext => ?_, hstep⟩
    rw [Trace.panics_panic hu] at htext
    rw [List.mem_singleton.1 htext]
    rfl

theorem prompt_ifPresent {a : Action Unit} (ha : a.Prompt) : (ifPresent a).Prompt := by
  intro u hu
  rw [meets_ifPresent]
  refine (ha u hu).mono (fun _ _ h => h) fun f v ⟨hblames, hstep⟩ => ?_
  cases f with
  | error e =>
    dsimp only
    split
    · exact ⟨hblames.panics, hstep⟩
    · exact ⟨hblames, hstep⟩
  | panic text => exact ⟨hblames, hstep⟩

end Fleet

theorem Task.prompt_kind : Task.Kind Task.Prompt where
  pure := prompt_pure
  fail := prompt_fail
  bind := Prompt.bind
  ifPresent := Fleet.prompt_ifPresent
  ask {_ r} hr := prompt_ask (fun _ => by cases r <;> first | rfl | cases hr)
    fun _ => by cases r <;> first | rfl | cases hr
  call := Fleet.prompt_call

/-! ## Steps -/

namespace StepAction

variable {ν α : Type}

/-- The step is prompt, whatever it works on. -/
def Prompt (x : StepAction ν α) : Prop :=
  ∀ (n : ν) (u : Trace), u.panics = [] →
    x.Meets .untilPanic (fun _ _ v => v.panics = [] ∧ v.step? = u.step?)
      (fun f _ v => Blames v f ∧ v.step? = u.step?) n u

theorem prompt_of_task {x : StepAction ν α} (h : ∀ n, (x.task n).Prompt) : x.Prompt :=
  fun n u hu => meets_task.1 (h n u hu)

end StepAction

/-! ## Workflows -/

/-- The steps of a workflow are named steps that are prompt. -/
def PromptSteps {ν : Type} (steps : List (Step Program ContainerError ν)) : Prop :=
  ∀ step ∈ steps, ∃ name x, step = Fleet.step name x ∧ x.Prompt

theorem promptSteps {ν : Type} {steps : List (Step Program ContainerError ν)}
    (h : Task.Kind.Steps Task.Prompt steps) : PromptSteps steps := fun step hstep => by
  obtain ⟨name, x, rfl, hx⟩ := h step hstep
  exact ⟨name, x, rfl, StepAction.prompt_of_task hx⟩

theorem Rollout.prompt_workflow (f : Fleet) : PromptSteps (workflow f).steps :=
  promptSteps (Task.prompt_kind.rollout fun _ => Task.prompt_panic)

theorem Teardown.prompt_workflow : PromptSteps workflow.steps := promptSteps Task.prompt_kind.teardown

/-- How a workflow ends: it succeeds only if no call panicked; its error names the workflow and the step
that was announced last, and is the panic of a call if there was one. -/
def StepError.Fits (workflow : String) (t : Trace) (r : Except (StepError ContainerError) Unit) : Prop :=
  match r with
  | .ok () => t.panics = []
  | .error e => ∃ step cause, t.step? = some step ∧ e = .ofFailure workflow step cause ∧ Blames t cause

theorem runSteps_fits {ν : Type} {workflow : String} {steps : List (Step Program ContainerError ν)}
    {job : Job} (hsteps : PromptSteps steps) (n : ν) {u : Trace} (hu : u.panics = []) :
    (Workflow.runSteps workflow job.announceStep steps n).Meets .untilPanic
      (fun r t => StepError.Fits workflow t r.1) u := by
  induction steps generalizing n u with
  | nil => exact hu
  | cons step rest ih =>
    obtain ⟨name, x, rfl, hx⟩ := hsteps step List.mem_cons_self
    rw [Workflow.meets_runSteps_cons]
    refine ⟨hu, fun _ v hv => ?_⟩
    obtain rfl : v = u ++ [Exchange.mk (.announce job.scope ⟨job.id, .step, name⟩) ()] := hv
    have hnone : Trace.panics (u ++ [⟨.announce job.scope ⟨job.id, .step, name⟩, ()⟩]) = [] :=
      (Trace.panics_concat rfl).trans hu
    refine Program.meets_done.2 ((hx n _ hnone).mono (fun _ n' v hv => ?_) fun f n' v hv => ?_)
    · exact ih (fun s hs => hsteps s (List.mem_cons_of_mem _ hs)) n' hv.1
    · exact ⟨name, f, hv.2.trans Trace.step?_announce, rfl, hv.1⟩

/-! ## Attempts -/

/-- What an attempt of a job has become after a trace. As long as it asks, no call has panicked, so a call
that does is the last thing it asks. If it failed, its error names the workflow and the step that was
announced last, and the text of the panic if there was one. -/
def Job.Contains (job : Job) (t : Trace) : AttemptProgram → Prop
  | .ask _ _ => t.panics = []
  | .done (.ok (), _) => t.panics = []
  | .done (.error f, _) => ∃ step cause, t.step? = some step ∧
    f = .error (Job.attemptError (.ofFailure job.kind.name step cause)) ∧ Blames t cause

theorem Job.attempt_fits (fleet : Fleet) (job : Job) :
    (job.attempt fleet).Meets .untilPanic (fun r t => StepError.Fits job.kind.name t r.1) [] := by
  unfold Job.attempt Job.kind
  cases job.work with
  | create config current new =>
    exact Program.meets_bind.2 (runSteps_fits (Rollout.prompt_workflow fleet) _ rfl)
  | delete config current =>
    exact Program.meets_bind.2 (runSteps_fits Teardown.prompt_workflow _ rfl)

/-- However the calls of an attempt are answered, it contains their panics. -/
theorem Executor.contains_performWorkflow {fleet : Fleet} {job : Job} {t : Trace} {q : AttemptProgram}
    (h : (performWorkflow fleet job).Follows t q) : job.Contains t q := by
  have hmeets : (performWorkflow fleet job).Meets .untilPanic
      (fun r t => job.Contains t (.done r)) [] := by
    refine Program.meets_bind.2 ((job.attempt_fits fleet).mono fun r t hr => ?_)
    obtain ⟨_ | ⟨⟨⟩⟩, job'⟩ := r
    · obtain ⟨step, cause, hstep, rfl, hblames⟩ := hr
      exact ⟨step, cause, hstep, rfl, hblames⟩
    · exact hr
  have hrest := hmeets.follows h
  cases q with
  | done r => exact hrest
  | ask r next => exact hrest.1

/-- A call that panics ends its attempt. The error names the workflow, the step that was announced last,
and the panic. -/
theorem Executor.panic_ends {fleet : Fleet} {job : Job} {t : Trace} {c : Engine.Call}
    {next : (Request.engine c).Answer → AttemptProgram}
    (h : (performWorkflow fleet job).Follows t (.ask (.engine c) next)) (text : Option String) :
    ∃ step final, t.step? = some step ∧ next (.error (.panic text)) = .done (.error (.error
      (.workflow (.panicked job.kind.name step (Failure.panicMessage text)))), final) := by
  have hbefore : t.panics = [] := contains_performWorkflow h
  have hafter := contains_performWorkflow (h.concat (.error (.panic text)))
  have hpanics : Trace.panics (t ++ [⟨.engine c, .error (.panic text)⟩]) = [text] :=
    Trace.panics_panic hbefore
  cases hrest : next (.error (.panic text)) with
  | ask r next' =>
    rw [hrest] at hafter
    cases hpanics.symm.trans hafter
  | done result =>
    rw [hrest] at hafter
    obtain ⟨f | ⟨⟨⟩⟩, final⟩ := result
    · obtain ⟨step, cause, hstep, rfl, hblames⟩ := hafter
      obtain rfl : cause = .panic text := hblames text (by rw [hpanics]; exact List.mem_singleton_self _)
      exact ⟨step, final, (Trace.step?_concat rfl).symm.trans hstep, rfl⟩
    · cases hpanics.symm.trans hafter

end Orchestrator
