import Orchestrator.Proofs.Daemon.Fair
import Orchestrator.Proofs.Program.Kinds

/-!
# What a worker does that others notice

The followers of a deployment, the executor and the activity log notice only some of a worker's steps.
`Worker.deeds` says what the worker does in which of them, and `Does` what it does along a part of a
run. Followers, store and executor change just as the deeds say (`Daemon.Moves.honest`), and the
attempts themselves announce nothing but their steps (`Executor.stepwise_begin`).
-/
namespace Orchestrator

open Daemon

variable {s t : Daemon} {pool : Pool} {i n m k : Nat} {w w' : Worker} {job job' : Job}

/-! ## Attempts announce their steps -/

/-- Of all that can be announced, only steps are; everything is answered in any way. -/
def Setting.stepwise : Setting Unit where
  allowed r _ := ∀ d e, r = .announce d e → e.phase = .step
  answers _ _ _ _ := True

/-- However it is answered, the task announces nothing but steps. -/
def Task.Stepwise {ε α : Type} (t : Task ε α) : Prop :=
  t.Meets .stepwise (fun _ _ => True) (fun _ _ => True) ()

theorem Task.stepwise_kind : Task.Kind Task.Stepwise where
  pure _ := trivial
  fail _ := trivial
  bind ht hf := meets_bind.2 (ht.mono (fun a _ _ => hf a) fun _ _ _ => trivial)
  ifPresent ha := Fleet.meets_ifPresent.2 (ha.mono (fun _ _ _ => trivial) fun f _ _ => by
    cases f with
    | error e =>
      dsimp only
      split <;> trivial
    | panic _ => trivial)
  ask {_ r} hr := by
    refine ⟨fun d e h => ?_, fun _ _ _ => trivial⟩
    subst h
    cases hr
  call c := Fleet.meets_call.2 ⟨fun _ _ h => (by cases h), fun reply _ _ => by cases reply <;> trivial⟩

theorem Workflow.runSteps_stepwise {ν : Type} {workflow : String}
    {steps : List (Step Program ContainerError ν)} {post : Except (StepError ContainerError) Unit × ν → Prop}
    (hsteps : Task.Kind.Steps Task.Stepwise steps) (hpost : ∀ r, post r) (v : ν) :
    (runSteps workflow job.announceStep steps v).Meets .stepwise (fun r _ => post r) () := by
  induction steps generalizing v with
  | nil => exact hpost _
  | cons step rest ih =>
    obtain ⟨name, x, rfl, hx⟩ := hsteps step List.mem_cons_self
    refine meets_runSteps_cons.2 ⟨fun d e h => ?_, fun _ _ _ => Program.meets_done.2 ?_⟩
    · cases h
      rfl
    · exact (StepAction.meets_task.1 (hx v)).mono
        (fun _ v' _ _ => ih (fun s hs => hsteps s (List.mem_cons_of_mem _ hs)) v') fun _ _ _ _ => hpost _

/-- However it is answered, the rest of an attempt announces nothing but steps, and it gives its job
back as it was but for the containers. -/
def Job.Stepwise (job : Job) (rest : AttemptProgram) : Prop :=
  rest.Meets .stepwise (fun r _ => r.2 = { job with work := r.2.work } ∧ r.2.kind = job.kind) ()

namespace Executor

theorem stepwise_performWorkflow (f : Fleet) (job : Job) : job.Stepwise (performWorkflow f job) := by
  unfold Job.Stepwise performWorkflow Job.attempt Job.kind
  rw [Program.meets_bind]
  cases job.work with
  | create config current new =>
    exact Program.meets_bind.2 (Workflow.runSteps_stepwise
      (Task.stepwise_kind.rollout fun _ _ => trivial) (fun _ => ⟨rfl, rfl⟩) _)
  | delete config current =>
    exact Program.meets_bind.2 (Workflow.runSteps_stepwise Task.stepwise_kind.teardown
      (fun _ => ⟨rfl, rfl⟩) _)

theorem stepwise_begin (executor : Executor) (f : Fleet) (job : Job) :
    job.Stepwise (executor.begin f job).1 := by
  unfold begin
  split
  · exact stepwise_performWorkflow f job
  · split
    · exact ⟨fun _ _ h => (by cases h), fun _ _ _ => ⟨rfl, rfl⟩⟩
    · exact ⟨rfl, rfl⟩

end Executor

/-! ## Deeds -/

/-- Something that a worker does and others notice. -/
inductive Deed where
  /-- It tells the followers of a deployment. -/
  | told (deployment : String) (event : Event)
  /-- It calls the executor for an attempt of its job. -/
  | called
  /-- It is given the result of an attempt. -/
  | returned (result : Except JobError Unit)
  /-- It goes to sleep between two attempts. -/
  | slept (milliseconds : Nat)
  /-- It hands the record of a job to the activity log. -/
  | recorded (activity : Activity)

/-- Is it a step of an attempt that is told of? -/
def Deed.announcesStep : Deed → Bool
  | .told _ event => event.phase = .step
  | _ => false

/-- The job with the result of an attempt kept. -/
def Job.noted (job : Job) : Except JobError Unit → Job
  | .ok () => job
  | .error e => job.withFailure e.message

/-- The outcome of a job whose last attempt had a result. -/
def JobOutcome.of : Except JobError Unit → JobOutcome
  | .ok () => .succeeded
  | .error _ => .failed

/-- A job as it is finished after the result of its last attempt. -/
def Daemon.final (s : Daemon) (job : Job) (result : Except JobError Unit) : Job :=
  (job.noted result).completed (.of result) s.stamp.1

/-- What a worker does once the last attempt of its job has a result. -/
def Daemon.lastDeeds (s : Daemon) (job : Job) (result : Except JobError Unit) : List Deed :=
  [.returned result, .told job.scope (lastEvent (s.final job result) (.of result)),
    .recorded ((s.final job result).activity s.stamp.1)]

/-- What a worker does when it goes from one state to another. -/
def Worker.deeds (s : Daemon) : Worker → Worker → List Deed
  | .attempting _ _ (.ask (.announce deployment event) _), _ => [.told deployment event]
  | .locking job, .attempting .. => [.told job.scope ⟨job.id, .started, job.kind.name⟩, .called]
  | .attempting _ _ (.done (.error (.error e), job)), .resting _ _ wake =>
    [.returned (.error e), .told job.scope ⟨job.id, .retrying, e.message⟩, .slept (wake - s.now)]
  | .resting .., .attempting .. => [.called]
  | .attempting _ _ (.done (.ok (), job)), .idle => s.lastDeeds job (.ok ())
  | .attempting _ _ (.done (.error (.error e), job)), .idle => s.lastDeeds job (.error e)
  | _, _ => []

/-- What is left of the deeds in a step of an attempt when it announces nothing but steps. -/
theorem Worker.deeds_ask {attempt : Nat} {r : Request} {next : r.Answer → AttemptProgram}
    (hr : ∀ d e, r = .announce d e → e.phase = .step) :
    ((Worker.attempting job attempt (.ask r next)).deeds s w').filter (!·.announcesStep) = [] := by
  cases r with
  | announce d e => simp [deeds, Deed.announcesStep, hr d e rfl]
  | _ => cases w' <;> rfl

/-! ## Deeds have their effects -/

/-- What a deed makes of the followers. -/
def Deed.tell (hub : Hub) : Deed → Hub
  | .told deployment event => (hub.emit deployment event).2
  | _ => hub

/-- What a deed makes of the store. -/
def Deed.record (store : Store) : Deed → Store
  | .recorded activity => store.recordActivity activity
  | _ => store

namespace Daemon

/-- In a worker's step followers and store change as its deeds say. The executor is called, for the job
that the worker has after it, just if that is among them. -/
structure Honest (s : Daemon) (w w' : Worker) (t : Daemon) : Prop where
  hub : t.hub = (w.deeds s w').foldl Deed.tell s.hub
  store : t.store = (w.deeds s w').foldl Deed.record s.store
  executor : ∀ pool, s.pool = some pool →
    (.called ∈ w.deeds s w' ∧ ∃ job attempt,
      w' = .attempting job attempt (pool.executor.begin s.fleet job).1 ∧
      t.pool.map Pool.executor = some (pool.executor.begin s.fleet job).2) ∨
    (.called ∉ w.deeds s w' ∧ t.pool.map Pool.executor = some pool.executor)

theorem Moves.honest (h : s.Moves i w w' t) : Honest s w w' t := by
  obtain ⟨pool, hpool, -, hmove⟩ := h
  -- a step without a deed that leaves followers, store and pool alone
  have idly : ∀ {u : Daemon}, w.deeds s w' = [] → t = u.setWorker i w' → u.hub = s.hub →
      u.store = s.store → u.pool = s.pool → Honest s w w' t := by
    rintro u hnone rfl hhub hstore hsame
    refine ⟨by rw [hnone]; exact hhub, by rw [hnone]; exact hstore, fun p hp => .inr ⟨?_, ?_⟩⟩
    · simp [hnone]
    · simp [setWorker, hsame, hp]
  cases hmove with
  | reply reply engine => exact idly rfl rfl rfl rfl rfl
  | step h =>
    cases h with
    | stop => exact idly rfl rfl rfl rfl rfl
    | take _ => exact idly rfl rfl rfl rfl rfl
    | join => exact idly rfl rfl rfl rfl rfl
    | crash => exact idly rfl rfl rfl rfl rfl
    | pause => exact idly rfl rfl rfl rfl rfl
    | wake _ => exact idly rfl rfl rfl rfl rfl
    | first _ =>
      refine ⟨rfl, rfl, fun p hp => .inl ⟨by simp [Worker.deeds], ?_⟩⟩
      obtain rfl := Option.some.inj (hpool.symm.trans hp)
      exact ⟨_, _, rfl, rfl⟩
    | again _ =>
      refine ⟨rfl, rfl, fun p hp => .inl ⟨by simp [Worker.deeds], ?_⟩⟩
      obtain rfl := Option.some.inj (hpool.symm.trans hp)
      exact ⟨_, _, rfl, rfl⟩
    | succeed =>
      refine ⟨rfl, rfl, fun p hp => .inr ⟨by simp [Worker.deeds, lastDeeds], ?_⟩⟩
      simp [complete, setWorker, stamp, announce, hp]
    | fail _ =>
      refine ⟨rfl, rfl, fun p hp => .inr ⟨by simp [Worker.deeds, lastDeeds], ?_⟩⟩
      simp [complete, setWorker, stamp, announce, hp]
    | retry _ =>
      refine ⟨rfl, rfl, fun p hp => .inr ⟨by simp [Worker.deeds], ?_⟩⟩
      simp [setWorker, announce, hp]
    | @ask _ _ r _ _ =>
      cases r with
      | announce d e =>
        refine ⟨rfl, rfl, fun p hp => .inr ⟨by simp [Worker.deeds], ?_⟩⟩
        simp [serve, setWorker, announce, hp]
      | _ => exact idly rfl rfl rfl rfl rfl

/-- A worker is in one state before a step, and in one after it. -/
theorem Moves.unique {v v' : Worker} (h : s.Moves i w w' t) (h' : s.Moves i v v' t) :
    w = v ∧ w' = v' :=
  ⟨Option.some.inj (h.choose_spec.2.1.symm.trans h'.choose_spec.2.1),
    Option.some.inj (h.worker.symm.trans h'.worker)⟩

end Daemon

/-! ## Deeds along a run -/

variable {run : Nat → Daemon} {deeds more : List Deed}

/-- From one time of a run to another a worker does this and nothing else, in this order. -/
inductive Does (run : Nat → Daemon) (i n : Nat) : Nat → List Deed → Prop
  | start : Does run i n n []
  /-- Others take a step. -/
  | still {m : Nat} {deeds : List Deed} (h : Does run i n m deeds)
    (hstill : ∀ w w', ¬ (run m).Moves i w w' (run (m + 1))) : Does run i n (m + 1) deeds
  | move {m : Nat} {deeds : List Deed} {w w' : Worker} (h : Does run i n m deeds)
    (hmove : (run m).Moves i w w' (run (m + 1))) : Does run i n (m + 1) (deeds ++ w.deeds (run m) w')

namespace Does

theorem le (h : Does run i n m deeds) : n ≤ m := by
  induction h with
  | start => exact Nat.le_refl n
  | still _ _ ih => exact Nat.le_succ_of_le ih
  | move _ _ ih => exact Nat.le_succ_of_le ih

/-- What a worker does is determined by the run. -/
theorem unique (h : Does run i n m deeds) (h' : Does run i n m more) : deeds = more := by
  induction h generalizing more with
  | start =>
    cases h' with
    | start => rfl
    | still h' _ => exact absurd h'.le (Nat.not_succ_le_self _)
    | move h' _ => exact absurd h'.le (Nat.not_succ_le_self _)
  | still h hstill ih =>
    cases h' with
    | start => exact absurd h.le (Nat.not_succ_le_self _)
    | still h' _ => exact ih h'
    | move _ hmove => exact absurd hmove (hstill _ _)
  | move h hmove ih =>
    cases h' with
    | start => exact absurd h.le (Nat.not_succ_le_self _)
    | still _ hstill => exact absurd hmove (hstill _ _)
    | move h' hmove' =>
      obtain ⟨rfl, rfl⟩ := hmove.unique hmove'
      rw [ih h']

theorem append (h : Does run i n m deeds) (h' : Does run i m k more) : Does run i n k (deeds ++ more) := by
  induction h' with
  | start => simpa using h
  | still _ hstill ih => exact .still ih hstill
  | move _ hmove ih =>
    rw [← List.append_assoc]
    exact .move ih hmove

theorem of_still (hstill : Still run i n m) (hle : n ≤ m) : Does run i n m [] := by
  induction m, hle using Nat.le_induction with
  | base => exact .start
  | succ m hle ih => exact .still (ih hstill.of_succ) (hstill m hle (Nat.lt_succ_self m))

end Does

end Orchestrator
