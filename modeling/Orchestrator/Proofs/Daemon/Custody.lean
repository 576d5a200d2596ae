import Orchestrator.Proofs.Daemon.History
import Orchestrator.Proofs.Program.Aloof

/-!
# Jobs in the hands of workers

The rest of a worker's attempt asks nothing of the queue and ends with the job it began with
(`Worker.Tame`). A worker's step therefore takes the first job of the line, finishes the job that the
worker holds, or leaves queue and jobs as they are: `WorkerStep.effect`. With an executor that never
panics no worker ever crashes: `WorkerStep.returns`.
-/
namespace Orchestrator

namespace Executor

/-- Attempts never end in a panic. -/
def Returns : Executor → Prop
  | .deployments => True
  | .scripted scripts => ∀ scope acts, scripts.find? scope = some acts →
    ∀ act ∈ acts, ∀ text, act.ending ≠ .panic text

variable {executor : Executor}

/-- An attempt asks nothing of the queue, and ends with its job. -/
theorem aloof_begin (executor : Executor) (fleet : Fleet) (job : Job) :
    (executor.begin fleet job).1.Meets .aloof (fun r _ => r.2.key = job.key) () := by
  unfold begin
  split
  · exact Program.meets_bind.2 (Job.aloof_attempt fleet job)
  · split
    · exact ⟨rfl, fun _ _ _ => rfl⟩
    · exact rfl

theorem returns_begin (h : executor.Returns) (fleet : Fleet) (job : Job) :
    (executor.begin fleet job).1.Meets .aloof (fun r _ => ∀ text, r.1 ≠ .error (.panic text)) () := by
  unfold begin
  split
  · refine Program.meets_bind.2 ((Job.aloof_attempt fleet job).mono fun r _ _ text => ?_)
    obtain ⟨_ | _, _⟩ := r <;> simp [Except.mapError]
  · rename_i scripts
    split
    · rename_i act rest hfound
      have hact := h _ _ hfound act List.mem_cons_self
      refine ⟨rfl, fun _ _ _ text => ?_⟩
      cases hending : act.ending with
      | panic text' => exact absurd hending (hact text')
      | _ => simp [outcome]
    · simp

/-- Attempts without a panic may be arranged. -/
theorem Returns.arrange (h : executor.Returns) {scope : String} {acts : List Act}
    (hacts : ∀ act ∈ acts, ∀ text, act.ending ≠ .panic text) : (executor.arrange scope acts).Returns := by
  cases executor with
  | deployments => trivial
  | scripted scripts =>
    intro scope' acts' hfound
    rw [SortedMap.find?_insert] at hfound
    split at hfound
    · obtain rfl := Option.some.inj hfound
      exact hacts
    · exact h scope' acts' hfound

theorem Returns.next (h : executor.Returns) (fleet : Fleet) (job : Job) :
    (executor.begin fleet job).2.Returns := by
  unfold begin
  split
  · trivial
  · split
    · rename_i hfound
      exact h.arrange fun act hact => h _ _ hfound act (List.mem_cons_of_mem _ hact)
    · exact h

end Executor

namespace Worker

/-- The job that a worker has taken and not finished; a panic leaves it unfinished. -/
def held? : Worker → Option Job
  | .crashed job => some job
  | w => w.job?

/-- The rest of an attempt asks nothing of the queue, and ends as `post` says. -/
def Bound (post : Job → Except (Failure JobError) Unit × Job → Prop) : Worker → Prop
  | .attempting job _ rest | .sleeping job _ _ rest => rest.Meets .aloof (fun r _ => post job r) ()
  | _ => True

/-- An attempt ends with the job it began with. -/
def Tame (w : Worker) : Prop := w.Bound fun job r => r.2.key = job.key

/-- The worker has not ended in a panic, and its attempt does not. -/
def Returns (w : Worker) : Prop :=
  (w.Bound fun _ r => ∀ text, r.1 ≠ .error (.panic text)) ∧ ∀ job, w ≠ .crashed job

theorem Returns.held?_eq {w : Worker} (h : w.Returns) : w.held? = w.job? := by
  cases w with
  | crashed job => exact absurd rfl (h.2 job)
  | _ => rfl

end Worker

namespace Daemon

variable {s t : Daemon} {pool : Pool} {i : Nat} {w w' : Worker}

theorem serve_of_aloof {r : Request} (h : r.concernsQueue = false) (s : Daemon) :
    (s.serve r).2.queue = s.queue ∧ (s.serve r).2.finished = s.finished := by
  cases r with
  | isBusy _ | offer _ _ => cases h
  | _ => exact ⟨rfl, rfl⟩

/-- What is asked of the executor's attempts holds of every attempt that is under way. -/
theorem WorkerStep.bound {post : Job → Except (Failure JobError) Unit × Job → Prop}
    (h : WorkerStep s pool i w w' t)
    (hbegin : ∀ job, (pool.executor.begin s.fleet job).1.Meets .aloof (fun r _ => post job r) ())
    (hw : w.Bound post) : w'.Bound post := by
  cases h with
  | first _ => exact hbegin _
  | again _ => exact hbegin _
  | pause => exact hw.2 _ () trivial
  | ask _ => exact hw.2 _ () trivial
  | wake _ => exact hw
  | _ => trivial

theorem WorkerStep.tame (h : WorkerStep s pool i w w' t) (hw : w.Tame) : w'.Tame :=
  h.bound (Executor.aloof_begin _ _) hw

/-- With an executor that returns, workers do not crash. -/
theorem WorkerStep.returns (h : WorkerStep s pool i w w' t) (hreturns : pool.executor.Returns)
    (hw : w.Returns) : w'.Returns := by
  refine ⟨h.bound (Executor.returns_begin hreturns _) hw.1, ?_⟩
  rintro job rfl
  cases h with
  | @crash _ _ _ text => exact hw.1 text rfl

theorem WorkerStep.executor_returns (h : WorkerStep s pool i w w' t) (hpool : s.pool = some pool)
    (hreturns : pool.executor.Returns) : ∃ pool', t.pool = some pool' ∧ pool'.executor.Returns := by
  obtain ⟨executor, ht, rfl | ⟨job, rfl⟩⟩ := h.pool_cases hpool
  · exact ⟨_, ht, hreturns⟩
  · exact ⟨_, ht, hreturns.next s.fleet job⟩

/-- What a worker's step does to the queue and to jobs. -/
inductive Effect (s : Daemon) (w w' : Worker) (t : Daemon) : Prop
  /-- It takes the first job of the line. -/
  | take {job : Job} (hw : w.held? = none) (hw' : w'.held? = some job)
    (htaken : History.taken (w.change w') = [job]) (hqueue : s.queue.take? = some (job, t.queue))
    (hfinished : t.finished = s.finished)
  /-- It finishes the job that the worker holds. -/
  | finish {job job' : Job} {time : Nat} (hw : w.held? = some job) (hw' : w'.held? = none)
    (htaken : History.taken (w.change w') = []) (hkey : job'.key = job.key)
    (hqueue : t.queue = s.queue.finish job') (hfinished : t.finished = s.finished ++ [(job', time)])
  /-- It leaves them as they are. -/
  | keep (hheld : w'.held?.map Job.key = w.held?.map Job.key)
    (htaken : History.taken (w.change w') = []) (hqueue : t.queue = s.queue)
    (hfinished : t.finished = s.finished)

theorem WorkerStep.effect (h : WorkerStep s pool i w w' t) (hw : w.Tame) : Effect s w w' t := by
  cases h with
  | take htake => exact .take rfl rfl rfl htake rfl
  | succeed =>
    refine .finish rfl rfl rfl ?_ rfl rfl
    exact hw
  | fail _ =>
    refine .finish rfl rfl rfl ?_ rfl rfl
    exact hw
  | crash => exact .keep (congrArg some hw) rfl rfl rfl
  | retry _ => exact .keep (congrArg some hw) rfl rfl rfl
  | ask _ =>
    obtain ⟨hqueue, hfinished⟩ := serve_of_aloof hw.1 s
    exact .keep rfl rfl hqueue hfinished
  | _ => exact .keep rfl rfl rfl rfl

end Daemon

end Orchestrator
