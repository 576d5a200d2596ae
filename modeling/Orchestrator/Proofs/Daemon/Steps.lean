import Orchestrator.Daemon.Workers
import Orchestrator.Proofs.Daemon.Shared
import Orchestrator.Proofs.Store.Secrets

/-!
# What a worker's step can do

`WorkerStep s pool i w w' t` lists the ways in which the worker `i`, in the state `w`, takes the daemon
from `s` to `t` and is in the state `w'` after it; `stepWorker_cases` says that there are no others.
What a step does to each part of the daemon is read off this list.
-/
namespace Orchestrator

/-- The job a worker has. -/
def Worker.job? : Worker → Option Job
  | .taken job | .locking job | .attempting job _ _ | .sleeping job _ _ _ | .resting job _ _ => some job
  | .idle | .stopped | .crashed _ => none

/-- A worker's next step begins an attempt of its job. -/
def Worker.Tries (job : Job) (w : Worker) : Prop :=
  w = .locking job ∨ ∃ attempt wake, w = .resting job attempt wake

namespace Daemon

open Engine

/-- A worker's step, with its states before and after. -/
inductive WorkerStep (s : Daemon) (pool : Pool) (i : Nat) : Worker → Worker → Daemon → Prop
  | stop : WorkerStep s pool i .idle .stopped (s.setWorker i .stopped)
  | take {job : Job} {queue : Queue} (h : s.queue.take? = some (job, queue)) :
    WorkerStep s pool i .idle (.taken job) ({ s with queue }.setWorker i (.taken job))
  | join {job : Job} : WorkerStep s pool i (.taken job) (.locking job)
      ({ s with locks := s.locks.join job.scope i }.setWorker i (.locking job))
  | first {job : Job} (h : s.locks.isHeldBy job.scope i = true) :
    WorkerStep s pool i (.locking job)
      (.attempting (job.started s.stamp.1).attempted 1
        (pool.executor.begin s.fleet (job.started s.stamp.1).attempted).1)
      ((s.stamp.2.announce job.scope ⟨job.id, .started, job.kind.name⟩).beginAttempt pool i
        (job.started s.stamp.1) 1)
  | succeed {job job' : Job} {attempt : Nat} :
    WorkerStep s pool i (.attempting job attempt (.done (.ok (), job'))) .idle
      (s.complete i job' .succeeded)
  | crash {job job' : Job} {attempt : Nat} {text : Option String} :
    WorkerStep s pool i (.attempting job attempt (.done (.error (.panic text), job'))) (.crashed job')
      ({ s with locks := s.locks.leave job'.scope i }.setWorker i (.crashed job'))
  | retry {job job' : Job} {attempt : Nat} {e : JobError}
    (h : attempt < max job'.attempts.toNat 1) :
    WorkerStep s pool i (.attempting job attempt (.done (.error (.error e), job')))
      (.resting (job'.withFailure e.message) attempt (s.now + pool.retryDelay))
      ((s.announce job'.scope ⟨job'.id, .retrying, e.message⟩).setWorker i
        (.resting (job'.withFailure e.message) attempt (s.now + pool.retryDelay)))
  | fail {job job' : Job} {attempt : Nat} {e : JobError}
    (h : ¬ attempt < max job'.attempts.toNat 1) :
    WorkerStep s pool i (.attempting job attempt (.done (.error (.error e), job'))) .idle
      (s.complete i (job'.withFailure e.message) .failed)
  | pause {job : Job} {attempt milliseconds : Nat} {next : Unit → AttemptProgram} :
    WorkerStep s pool i (.attempting job attempt (.ask (.pause milliseconds) next))
      (.sleeping job attempt (s.now + milliseconds) (next ()))
      (s.setWorker i (.sleeping job attempt (s.now + milliseconds) (next ())))
  | ask {job : Job} {attempt : Nat} {r : Request} {next : r.Answer → AttemptProgram}
    (h : ∀ milliseconds, r ≠ .pause milliseconds) :
    WorkerStep s pool i (.attempting job attempt (.ask r next))
      (.attempting job attempt (next (s.serve r).1))
      ((s.serve r).2.setWorker i (.attempting job attempt (next (s.serve r).1)))
  | wake {job : Job} {attempt wake : Nat} {rest : AttemptProgram} (h : wake ≤ s.now) :
    WorkerStep s pool i (.sleeping job attempt wake rest) (.attempting job attempt rest)
      (s.setWorker i (.attempting job attempt rest))
  | again {job : Job} {attempt wake : Nat} (h : wake ≤ s.now) :
    WorkerStep s pool i (.resting job attempt wake)
      (.attempting job.attempted (attempt + 1) (pool.executor.begin s.fleet job.attempted).1)
      (s.beginAttempt pool i job (attempt + 1))

variable {s t : Daemon} {pool : Pool} {i : Nat} {w w' : Worker}

theorem endAttempt_cases (s : Daemon) (pool : Pool) (i attempt : Nat) (job job' : Job)
    (result : Except (Failure JobError) Unit) :
    ∃ w', WorkerStep s pool i (.attempting job attempt (.done (result, job'))) w'
      (s.endAttempt pool i attempt result job') := by
  unfold endAttempt
  match result with
  | .ok () => exact ⟨_, .succeed⟩
  | .error (.panic text) => exact ⟨_, .crash⟩
  | .error (.error e) =>
    dsimp only
    split
    · rename_i h
      exact ⟨_, .retry h⟩
    · rename_i h
      exact ⟨_, .fail h⟩

theorem stepWorker_cases (h : s.stepWorker i = some t) : ∃ pool w w', s.pool = some pool ∧
    pool.workers[i]? = some w ∧ WorkerStep s pool i w w' t := by
  unfold stepWorker at h
  obtain ⟨pool, hpool, h⟩ := Option.bind_eq_some_iff.1 h
  obtain ⟨w, hw, h⟩ := Option.bind_eq_some_iff.1 h
  suffices ∃ w', WorkerStep s pool i w w' t by
    obtain ⟨w', hstep⟩ := this
    exact ⟨pool, w, w', hpool, hw, hstep⟩
  split at h
  · split at h
    · obtain rfl := Option.some.inj h
      exact ⟨_, .stop⟩
    · split at h
      · rename_i htake
        obtain rfl := Option.some.inj h
        exact ⟨_, .take htake⟩
      · split at h
        · obtain rfl := Option.some.inj h
          exact ⟨_, .stop⟩
        · cases h
  · obtain rfl := Option.some.inj h
    exact ⟨_, .join⟩
  · split at h
    · rename_i hheld
      obtain rfl := Option.some.inj h
      exact ⟨_, .first hheld⟩
    · cases h
  · obtain rfl := Option.some.inj h
    exact endAttempt_cases ..
  · obtain rfl := Option.some.inj h
    exact ⟨_, .pause⟩
  · rename_i hpause
    obtain rfl := Option.some.inj h
    exact ⟨_, .ask fun milliseconds heq => by subst heq; exact hpause _ _ rfl HEq.rfl⟩
  · split at h
    · rename_i hwake
      obtain rfl := Option.some.inj h
      exact ⟨_, .wake hwake⟩
    · cases h
  · split at h
    · rename_i hwake
      obtain rfl := Option.some.inj h
      exact ⟨_, .again hwake⟩
    · cases h
  · cases h
  · cases h

/-! ## What becomes of the parts of the daemon -/

theorem serve_pool (r : Request) (s : Daemon) : (s.serve r).2.pool = s.pool := by cases r <;> rfl

theorem serve_locks (r : Request) (s : Daemon) : (s.serve r).2.locks = s.locks := by cases r <;> rfl

/-- A step changes the pool in the worker's own place, and at most moves the executor on to its next
attempt. -/
theorem WorkerStep.pool_cases (h : WorkerStep s pool i w w' t) (hpool : s.pool = some pool) :
    ∃ executor, t.pool = some { pool with
      executor := executor
      workers := pool.workers.set i w' } ∧
      (executor = pool.executor ∨ ∃ job, executor = (pool.executor.begin s.fleet job).2) := by
  have kept : ∀ u : Daemon, u.pool = s.pool → ∃ executor, (u.setWorker i w').pool = some { pool with
      executor := executor
      workers := pool.workers.set i w' } ∧
      (executor = pool.executor ∨ ∃ job, executor = (pool.executor.begin s.fleet job).2) := fun u hu =>
    ⟨pool.executor, by simp [setWorker, hu, hpool], .inl rfl⟩
  cases h with
  | first _ => exact ⟨_, rfl, .inr ⟨_, rfl⟩⟩
  | again _ => exact ⟨_, rfl, .inr ⟨_, rfl⟩⟩
  | ask _ => exact kept _ (serve_pool _ s)
  | stop => exact kept s rfl
  | take _ => exact kept _ rfl
  | join => exact kept _ rfl
  | succeed => exact kept _ rfl
  | crash => exact kept _ rfl
  | retry _ => exact kept _ rfl
  | fail _ => exact kept _ rfl
  | pause => exact kept s rfl
  | wake _ => exact kept s rfl

theorem WorkerStep.pool_eq (h : WorkerStep s pool i w w' t) (hpool : s.pool = some pool) :
    ∃ executor, t.pool = some { pool with
      executor := executor
      workers := pool.workers.set i w' } ∧
      (pool.executor = .deployments → executor = .deployments) := by
  obtain ⟨executor, ht, rfl | ⟨job, rfl⟩⟩ := h.pool_cases hpool
  · exact ⟨_, ht, id⟩
  · exact ⟨_, ht, fun h => by rw [h]; rfl⟩

theorem WorkerStep.workers (h : WorkerStep s pool i w w' t) (hpool : s.pool = some pool) :
    t.workers = s.workers.set i w' := by
  obtain ⟨executor, ht, -⟩ := h.pool_eq hpool
  unfold Daemon.workers
  rw [ht, hpool]

/-- A step, by the state of the worker before it. -/
theorem workerStep_of_stepWorker (hw : s.workers[i]? = some w) (h : s.stepWorker i = some t) :
    ∃ pool w', s.pool = some pool ∧ t.workers = s.workers.set i w' ∧ t.workers[i]? = some w' ∧
      WorkerStep s pool i w w' t := by
  obtain ⟨pool, w₁, w', hpool, hw₁, hcases⟩ := stepWorker_cases h
  have hworkers : s.workers = pool.workers := by rw [workers, hpool]
  obtain rfl : w = w₁ := Option.some.inj (hw.symm.trans (hworkers ▸ hw₁))
  have ht := hcases.workers hpool
  refine ⟨pool, w', hpool, ht, ?_, hcases⟩
  rw [ht, List.getElem?_set_self (List.getElem?_eq_some_iff.1 hw).1]

/-- A step, by the states of the worker before and after it. -/
theorem workerStep_of_workers (hw : s.workers[i]? = some w) (h : s.stepWorker i = some t)
    (hw' : t.workers[i]? = some w') :
    ∃ pool, s.pool = some pool ∧ t.workers = s.workers.set i w' ∧ WorkerStep s pool i w w' t := by
  obtain ⟨pool, w₁, hpool, ht, hw₁, hcases⟩ := workerStep_of_stepWorker hw h
  obtain rfl : w' = w₁ := Option.some.inj (hw'.symm.trans hw₁)
  exact ⟨pool, hpool, ht, hcases⟩

theorem aside_setWorker (s : Daemon) (i : Nat) (w : Worker) : Aside s (s.setWorker i w) :=
  ⟨rfl, rfl, fun _ _ => rfl, Nat.le_refl _, rfl⟩

theorem aside_complete (s : Daemon) (i : Nat) (job : Job) (outcome : JobOutcome) :
    Aside s (s.complete i job outcome) :=
  ⟨rfl, rfl, fun _ _ => Store.getSecret_recordActivity .., Nat.le_refl _, rfl⟩

/-- Only a call of an attempt reaches the engine. -/
theorem WorkerStep.aside (h : WorkerStep s pool i w w' t) :
    Aside s t ∨ ∃ job attempt c, ∃ next : c.Reply → AttemptProgram,
      w = .attempting job attempt (.ask (.engine c) next) ∧
      w' = .attempting job attempt (next (s.serve (.engine c)).1) ∧
      t = (s.called c).setWorker i w' := by
  cases h with
  | @ask job attempt r next _ =>
    by_cases hr : ∃ c, r = .engine c
    · obtain ⟨c, rfl⟩ := hr
      exact .inr ⟨job, attempt, c, next, rfl, rfl, rfl⟩
    · have quiet := aside_serve (fun c hc => hr ⟨c, hc⟩) s
      exact .inl ⟨quiet.engine, quiet.fleet, quiet.secrets, quiet.names, quiet.ending⟩
  | succeed => exact .inl (aside_complete ..)
  | fail _ => exact .inl (aside_complete ..)
  | _ => exact .inl ⟨rfl, rfl, fun _ _ => rfl, Nat.le_refl _, rfl⟩

/-- A step finishes no job, or the worker's own. -/
theorem WorkerStep.finished (h : WorkerStep s pool i w w' t) : t.finished = s.finished ∨
    ∃ job job' attempt, w' = .idle ∧
      ((w = .attempting job attempt (.done (.ok (), job')) ∧ t = s.complete i job' .succeeded) ∨
        ∃ e, w = .attempting job attempt (.done (.error (.error e), job')) ∧
          t = s.complete i (job'.withFailure e.message) .failed) := by
  cases h with
  | @succeed job job' attempt => exact .inr ⟨job, job', attempt, rfl, .inl ⟨rfl, rfl⟩⟩
  | @fail job job' attempt e _ => exact .inr ⟨job, job', attempt, rfl, .inr ⟨e, rfl, rfl⟩⟩
  | @ask _ _ r _ _ => exact .inl (by cases r <;> rfl)
  | _ => exact .inl rfl

/-- The job that a worker completes is the last of those that are finished. -/
theorem complete_finished {job job' : Job} {outcome : JobOutcome} {time : Nat}
    (h : (s.complete i job outcome).finished = s.finished ++ [(job', time)]) :
    job.completed outcome s.stamp.1 = job' ∧ s.now = time :=
  Prod.mk.inj (List.singleton_inj.1 (List.append_cancel_left h))

/-- Along steps the engine stays what it is, and creates ever more containers. -/
theorem WorkerStep.steady (h : WorkerStep s pool i w w' t) (hs : s.Steady) :
    t.Steady ∧ s.memory.created ≤ t.memory.created := by
  rcases h.aside with haside | ⟨job, attempt, c, next, -, -, rfl⟩
  · exact ⟨haside.steady hs, Nat.le_of_eq (by rw [haside.memory])⟩
  · refine ⟨(aside_setWorker ..).steady (hs.called c), ?_⟩
    rw [(aside_setWorker ..).memory, (serve_engine hs.faultless).2.1]
    exact Memory.created_le_serve ..

/-- What a program that asks in a shared setting does at its next request. -/
theorem meets_serve {d : String} {terms : Option Terms} {α : Type} {r : Request}
    {next : r.Answer → Program α} {post : α → Daemon → Prop}
    (h : (Program.ask r next).Meets (shared d terms) post s) :
    Own d terms s (s.serve r).2 ∧ (next (s.serve r).1).Meets (shared d terms) post (s.serve r).2 :=
  ⟨h.1 s (.refl s), h.2 _ _ ⟨s, .refl s, rfl⟩⟩

end Daemon

end Orchestrator
