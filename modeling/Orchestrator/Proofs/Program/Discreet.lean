import Orchestrator.Drift
import Orchestrator.Pool
import Orchestrator.Proofs.Engine.Bare
import Orchestrator.Proofs.Program.Composed

/-!
# Programs that show no secret

Two programs are alike if they ask for the same, one thing after another, and go on alike, though they
are answered with other values of secrets; only the environments of the containers that they create may
differ. A program is discreet if it is like itself: nothing it does but those environments depends on
the value of a secret. All programs that a daemon runs are discreet: `Executor.discreet_begin`,
`Drift.discreet_poll`.
-/
namespace Orchestrator

/-- Does a request ask for a secret? -/
def Request.asksSecret : Request → Bool
  | .secret .. => true
  | _ => false

namespace Program

variable {α β γ δ : Type} {R : α → β → Prop}

/-- The programs ask for the same and end with results in a relation, whatever values the secrets have
that each is answered with, and whatever is in the environments of the containers that they create. -/
inductive Alike {α β : Type} (R : α → β → Prop) : Program α → Program β → Prop
  | done {a : α} {b : β} (h : R a b) : Alike R (.done a) (.done b)
  | ask {r : Request} {next : r.Answer → Program α} {next' : r.Answer → Program β}
    (hr : r.asksSecret = false) (h : ∀ answer, Alike R (next answer) (next' answer)) :
    Alike R (.ask r next) (.ask r next')
  | secret {deployment key : String} {next : Except StoreError Secret → Program α}
    {next' : Except StoreError Secret → Program β}
    (h : ∀ found found', found.map Secret.redacted = found'.map Secret.redacted →
      Alike R (next found) (next' found')) :
    Alike R (.ask (.secret deployment key) next) (.ask (.secret deployment key) next')
  | create {spec spec' : Engine.ContainerSpec}
    {next : Except (Failure Engine.EngineError) String → Program α}
    {next' : Except (Failure Engine.EngineError) String → Program β} (hspec : spec.bare = spec'.bare)
    (h : ∀ answer, Alike R (next answer) (next' answer)) :
    Alike R (.ask (.engine (.create spec)) next) (.ask (.engine (.create spec')) next')

theorem Alike.bind {Q : γ → δ → Prop} {p : Program α} {p' : Program β} {f : α → Program γ}
    {f' : β → Program δ} (h : p.Alike R p') (hf : ∀ a b, R a b → (f a).Alike Q (f' b)) :
    (p >>= f).Alike Q (p' >>= f') := by
  induction h with
  | done h => exact hf _ _ h
  | ask hr _ ih => exact .ask hr ih
  | secret _ ih => exact .secret ih
  | create hspec _ ih => exact .create hspec ih

/-- What the program shows does not depend on the values of secrets. -/
def Discreet (p : Program α) : Prop := p.Alike Eq p

theorem discreet_request {r : Request} (h : r.asksSecret = false) : (request r).Discreet :=
  .ask h fun _ => .done rfl

theorem discreet_plain {r : Request} (h : r.isPlain = true) : (request r).Discreet :=
  discreet_request (by cases r <;> first | rfl | cases h)

theorem discreet_closed : Closed Discreet where
  done _ := .done rfl
  bind hp hf := hp.bind fun a b h => by
    obtain rfl := h
    exact hf a

end Program

/-! ## Tasks -/

namespace Task

variable {ε α β γ : Type}

/-- The tasks are alike, and succeed with results of which a part is the same or fail alike. -/
def Alike (part : α → γ) (t t' : Task ε α) : Prop :=
  t.run.Alike (fun x y => x.map part = y.map part) t'.run

theorem Alike.bind {part : α → γ} {t t' : Task ε α} {f f' : α → Task ε β}
    {Q : Except (Failure ε) β → Except (Failure ε) β → Prop} (h : t.Alike part t')
    (hf : ∀ a b, part a = part b → (f a).run.Alike Q (f' b).run) (hfailed : ∀ e, Q (.error e) (.error e)) :
    (t >>= f).run.Alike Q (t' >>= f').run := by
  rw [ExceptT.run_bind, ExceptT.run_bind]
  refine Program.Alike.bind h fun x y hxy => ?_
  cases x with
  | ok a =>
    cases y with
    | ok b => exact hf a b (Except.ok.inj hxy)
    | error e => cases hxy
  | error e =>
    cases y with
    | ok b => cases hxy
    | error e' =>
      obtain rfl := Except.error.inj hxy
      exact .done (hfailed e)

end Task

namespace Fleet

open Program Engine

theorem discreet_call (c : Call) : (Fleet.call c).run.Discreet :=
  discreet_closed.call (discreet_request rfl)

theorem alike_ask_secret {ε : Type} (d key : String) :
    (Task.ask (.secret d key) : Task ε (Except StoreError Secret)).Alike (Except.map Secret.redacted)
      (Task.ask (.secret d key)) :=
  .secret fun _ _ h => .done (congrArg Except.ok h)

/-- Whether secrets are found does not depend on their values. -/
theorem alike_resolve (d : String) (secrets : List (String × String)) :
    (resolve d secrets).Alike (fun _ => ()) (resolve d secrets) := by
  induction secrets with
  | nil => exact .done rfl
  | cons entry rest ih =>
    refine (alike_ask_secret d entry.1).bind (fun found found' h => ?_) fun _ => rfl
    cases found with
    | ok secret =>
      cases found' with
      | ok secret' => exact ih.bind (fun _ _ _ => .done rfl) fun _ => rfl
      | error e => cases h
    | error e =>
      cases found' with
      | ok secret' => cases h
      | error e' =>
        obtain rfl := Except.error.inj h
        cases e with
        | unknownSecret key name => exact ih
        | invalid _ | unknownDeployment _ | undecodable => exact .done rfl

/-- What a container is created from depends on secrets in its environment only. -/
theorem alike_spec (f : Fleet) (d : Deployment) : (f.spec d).Alike ContainerSpec.bare (f.spec d) := by
  have env : (resolveEnv d).Alike (fun _ => ()) (resolveEnv d) :=
    (alike_resolve _ _).bind (fun _ _ _ => .done rfl) fun _ => rfl
  refine env.bind (fun env env' _ => ?_) fun _ => rfl
  have drawn : (Task.ask .suffix : Fleet.Action String).Alike id (Task.ask .suffix) := .ask rfl fun _ => .done rfl
  refine drawn.bind (fun suffix suffix' h => ?_) fun _ => rfl
  obtain rfl := h
  exact .done rfl

theorem discreet_create (f : Fleet) (d : Deployment) : (f.create d).run.Discreet := by
  refine discreet_closed.task (discreet_closed.ensureNetwork f (discreet_plain rfl) (discreet_plain rfl)) fun network => ?_
  refine (alike_spec f d).bind (fun spec spec' hspec => ?_) fun _ => rfl
  have made : (Fleet.call (.create spec)).Alike id (Fleet.call (.create spec')) :=
    .create hspec fun _ => .done rfl
  refine made.bind (fun id id' h => ?_) fun _ => rfl
  obtain rfl := h
  exact discreet_closed.task (discreet_call _) fun _ => discreet_call _

end Fleet

/-! ## Attempts and passes -/

theorem Program.discreet_composed : Program.Composed Program.Discreet where
  toClosed := discreet_closed
  request := discreet_plain
  create := Fleet.discreet_create

open Program

theorem Job.discreet_attempt (f : Fleet) (j : Job) : (j.attempt f).Discreet := by
  have announced : ∀ step, (j.announceStep step).Discreet := fun _ => discreet_request rfl
  unfold Job.attempt
  cases j.work with
  | create config current new =>
    exact discreet_closed.bind (discreet_composed.runSteps _ announced (discreet_composed.rollout f) _)
      fun _ => discreet_closed.done _
  | delete config current =>
    exact discreet_closed.bind (discreet_composed.runSteps _ announced discreet_composed.teardown _)
      fun _ => discreet_closed.done _

/-- Attempts of jobs are discreet, whether by workflow or arranged. -/
theorem Executor.discreet_begin (executor : Executor) (fleet : Fleet) (job : Job) :
    (executor.begin fleet job).1.Discreet := by
  unfold begin
  split
  · exact discreet_closed.bind (job.discreet_attempt fleet) fun _ => discreet_closed.done _
  · split
    · exact discreet_closed.bind (discreet_request rfl) fun _ => discreet_closed.done _
    · exact discreet_closed.done _

/-- Passes for drift are discreet. -/
theorem Drift.discreet_poll (attempts : UInt32) (deployments : List Deployment) :
    (Drift.poll attempts deployments).run.Discreet := by
  have reconciled (d : Deployment) : (Drift.reconcile attempts d).run.Discreet := by
    refine discreet_closed.bind (Fleet.discreet_call _) fun listed => ?_
    rcases listed with (e | text) | containers
    · exact discreet_closed.done _
    · exact discreet_closed.done _
    · dsimp only
      split
      · exact discreet_closed.done _
      · exact discreet_closed.bind (discreet_request rfl) fun _ => discreet_closed.done _
  have checked (d : Deployment) : (Drift.check attempts d).run.Discreet := by
    refine discreet_closed.task (discreet_closed.ask (discreet_request rfl)) fun busy => ?_
    cases busy with
    | true => exact discreet_closed.done _
    | false => exact reconciled d
  induction deployments with
  | nil => exact discreet_closed.done _
  | cons d rest ih =>
    exact discreet_closed.task (checked d) fun _ => discreet_closed.task ih fun _ => discreet_closed.done _

end Orchestrator
