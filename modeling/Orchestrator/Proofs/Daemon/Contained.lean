import Orchestrator.Proofs.Daemon.Fair
import Orchestrator.Proofs.Daemon.Order

/-!
# Panics are contained

Whatever the engine answers the calls of workers with, no panic leaves an attempt, and none keeps a job
from its end. Along a fair run every job that a worker takes is finished: the worker gives up the lock
and the count, has one record of the job kept, and is idle again (`Daemon.Finishes`).

Main statement: `FairRun.panics_contained`.
-/
namespace Orchestrator

open Daemon

variable {s t : Daemon} {i : Nat} {w w' : Worker} {job : Job}

/-! ## What a finished job leaves -/

namespace Daemon

/-- In this step a worker finishes a job. The job has an outcome, and one record of it is handed to the
store; the worker gives up the lock, which it had, and its place in the count of jobs in flight; it is
idle again, and can take the next job. -/
structure Finishes (s : Daemon) (i : Nat) (job : Job) (t : Daemon) : Prop where
  record : ∃ final outcome, final.key = job.key ∧ final.status.outcome = some outcome ∧
    final.isComplete = true ∧ t.finished = s.finished ++ [(final, s.now)] ∧
    t.store = s.store.recordActivity (final.activity s.stamp.1)
  held : ∃ rest, s.locks.line job.scope = i :: rest ∧ t.locks.line job.scope = rest
  released : ∀ d, i ∉ t.locks.line d
  count : t.queue.inFlight.count job.scope + 1 = s.queue.inFlight.count job.scope
  idle : t.workers[i]? = some .idle
  goesOn : ∀ pool next queue, t.pool = some pool → pool.isShutdown = false →
    t.queue.take? = some (next, queue) →
    ∃ u, t.stepWorker i = some u ∧ u.workers[i]? = some (.taken next)

theorem Ends.finishes {final : Job} {outcome : JobOutcome} (h : Ends s i final outcome t) (hs : s.Sane)
    (hkey : final.key = job.key) : Finishes s i job t := by
  have hscope : final.scope = job.scope := congrArg Prod.snd hkey
  obtain ⟨hheld, hreleased⟩ := h.lock hs
  obtain ⟨first, attempt, rest, hw, -⟩ := h.attempting hs
  have hi := (List.getElem?_eq_some_iff.1 hw).1
  have hpool : ∃ pool, s.pool = some pool := by
    obtain ⟨pool, hpool, -⟩ := Option.map_eq_some_iff.1 hs.executor
    exact ⟨pool, hpool⟩
  have hidle : t.workers[i]? = some .idle := by
    obtain ⟨pool, hpool⟩ := hpool
    have hset : t.workers = s.workers.set i .idle := by
      rw [h.eq_complete]
      simp only [workers, complete, setWorker, stamp, announce, hpool]
      rfl
    rw [hset, List.getElem?_set_self hi]
  refine ⟨⟨final.completed outcome s.stamp.1, outcome, hkey, rfl, rfl, ?_, ?_⟩, hscope ▸ hheld,
    hreleased, hscope ▸ h.count hs, hidle, fun pool next queue hpool hrunning htake => ?_⟩
  · rw [h.eq_complete]
    rfl
  · rw [h.eq_complete]
    rfl
  · have hworkers : t.workers = pool.workers := by rw [workers, hpool]
    have hworker := hidle
    rw [hworkers] at hworker
    refine ⟨{ t with queue := queue }.setWorker i (.taken next), ?_, ?_⟩
    · simp [stepWorker, hpool, hworker, hrunning, htake]
    · simp [workers, setWorker, hpool, (List.getElem?_eq_some_iff.1 hworker).1]

/-- In this step an attempt counts as failed: the job keeps the error, and is tried again if attempts
are left, or else has failed. -/
def CountsFailure (s : Daemon) (i attempt : Nat) (job : Job) (error : JobError) (t : Daemon) : Prop :=
  if attempt < max job.attempts.toNat 1 then
    ∃ wake, t.workers[i]? = some (.resting (job.withFailure error.message) attempt wake)
  else Ends s i (job.withFailure error.message) .failed t

theorem Moves.countsFailure {attempt : Nat} {error : JobError} {job' : Job}
    (h : s.Moves i (.attempting job attempt (.done (.error (.error error), job'))) w' t) :
    CountsFailure s i attempt job' error t := by
  have hworker := h.worker
  obtain ⟨pool, hpool, hw, hmove⟩ := h
  cases hmove with
  | step h =>
    cases h with
    | retry hmore => exact (if_pos hmore).mpr ⟨_, hworker⟩
    | fail hlast => exact (if_neg hlast).mpr (.fail hw rfl)

end Daemon

/-! ## Panics -/

/-- What is left of an attempt of a job, in the step that was announced last. -/
def InStep (job : Job) (step : String) (rest : AttemptProgram) : Prop :=
  ∃ fleet trace, (Executor.performWorkflow fleet job).Follows trace rest ∧ trace.step? = some step

/-- No panic leaves an attempt, whatever its calls are answered with, and no worker ends in one. A call
that panics ends its attempt with an error that names the workflow, the step and the text of the panic,
and an attempt that has ended with an error counts as failed, with that error. Every job that a worker
has is finished: it gets an outcome, its lock and its count are released, one record of it is handed to
the store, in this step and in no other, and the worker is idle again. -/
theorem FairRun.panics_contained {run : Nat → Daemon} (hrun : FairRun run)
    (hidle : (run 0).Unoccupied) (hcounted : (run 0).Counted)
    (hexecutor : (run 0).pool.map Pool.executor = some .deployments) :
    (∀ fleet job trace result final,
      (Executor.performWorkflow fleet job).Follows trace (.done (result, final)) →
        ∀ text, result ≠ .error (.panic text)) ∧
    ∀ n i w, (run n).workers[i]? = some w →
      (∀ job, w ≠ .crashed job) ∧
      (∀ job attempt c next, w = .attempting job attempt (.ask (.engine c) next) → ∀ text,
        ∃ step final, InStep job step (.ask (.engine c) next) ∧
          next (.error (.panic text)) = .done (.error (.error
            (.workflow (.panicked job.kind.name step (Failure.panicMessage text)))), final)) ∧
      (∀ job attempt f final, w = .attempting job attempt (.done (.error f, final)) →
        ∃ step cause error, InStep job step (.done (.error f, final)) ∧
          error = Job.attemptError (.ofFailure job.kind.name step cause) ∧ f = .error error ∧
          ∃ m, n ≤ m ∧ Still run i n m ∧ CountsFailure (run m) i attempt final error (run (m + 1))) ∧
      ∀ job, w.job? = some job → ∃ m, n ≤ m ∧
        (∀ k, n ≤ k → k < m → AtWork run i job k) ∧ Finishes (run m) i job (run (m + 1)) := by
  have hs : (run 0).Sane := sane_of_unoccupied hidle hcounted hexecutor
  refine ⟨fun fleet job trace result final hfollows text => ?_, fun n i w hw =>
    ⟨fun job => ?_, fun job attempt c next => ?_, fun job attempt f final => ?_, fun job hjob => ?_⟩⟩
  · rintro rfl
    obtain ⟨step, cause, -, he, -⟩ := Executor.contains_performWorkflow hfollows
    cases he
  · rintro rfl
    exact (hrun.sane hs n).contained _ (List.mem_of_getElem? hw)
  · rintro rfl text
    obtain ⟨fleet, trace, hfollows⟩ := (hrun.sane hs n).contained _ (List.mem_of_getElem? hw)
    obtain ⟨step, final, hstep, hends⟩ := Executor.panic_ends hfollows text
    exact ⟨step, final, ⟨fleet, trace, hfollows, hstep⟩, hends⟩
  · rintro rfl
    obtain ⟨fleet, trace, hfollows⟩ := (hrun.sane hs n).contained _ (List.mem_of_getElem? hw)
    obtain ⟨step, cause, hstep, rfl, -⟩ := Executor.contains_performWorkflow hfollows
    obtain ⟨m, hle, hstill, w', hmove⟩ := hrun.moves hw n fun _ _ _ _ => trivial
    exact ⟨step, cause, _, ⟨fleet, trace, hfollows, hstep⟩, rfl, rfl, m, hle, hstill,
      hmove.countsFailure⟩
  · obtain ⟨m, hle, hat, final, outcome, hkey, hends⟩ :=
      hrun.first_end hs hw hjob (hrun.ends hs hw hjob)
    exact ⟨m, hle, hat, hends.finishes (hrun.sane hs m) hkey⟩

/-- The call that the worker makes next. -/
def Worker.call? : Worker → Option Engine.Call
  | .attempting _ _ (.ask (.engine c) _) => some c
  | _ => none

theorem Worker.attempting_of_call? {c : Engine.Call} (h : w.call? = some c) :
    ∃ job attempt next, w = .attempting job attempt (.ask (.engine c) next) := by
  unfold Worker.call? at h
  split at h
  · obtain rfl := Option.some.inj h
    exact ⟨_, _, _, rfl⟩
  · cases h

/-- One worker, and an engine that panics when an image is pulled. -/
def panicky : Daemon where
  queue := .new 4
  pool := some (Pool.new 1).start
  engine := { faults := [⟨.pull, .panic, "boom", 0, 1⟩] }

/-- It has accepted a rollout. -/
def pulling : Daemon := (panicky.offer rollout).2

theorem unoccupied_panicky : panicky.Unoccupied :=
  ⟨fun _ hw => List.eq_of_mem_replicate (n := 1) hw, fun _ => rfl⟩

theorem counted_pulling : pulling.Counted :=
  (counted_of_unoccupied unoccupied_panicky rfl fun _ => rfl).push rollout rfl rfl

/-- The worker's call panics, the attempt ends with an error that says so, and the job is finished
with it. -/
theorem pulling_contained : FairRun (ticking pulling) ∧ pulling.Unoccupied ∧ pulling.Counted ∧
    pulling.pool.map Pool.executor = some .deployments ∧
    (∃ w job attempt next, (ticking pulling 11).workers[0]? = some w ∧
      w = .attempting job attempt (.ask (.engine (.pull "nginx:latest")) next) ∧
      ∃ step final, next (.error (.panic (some "boom"))) = .done (.error (.error
        (.workflow (.panicked job.kind.name step "boom"))), final)) ∧
    (∃ m, 1 ≤ m ∧ Finishes (ticking pulling m) 0 rollout (ticking pulling (m + 1))) ∧
    (ticking pulling 20).finished.map (fun p => p.1.status.errors)
      = [["workflow create: step pull-image panicked: boom"]] := by
  have hrun := fairRun_ticking pulling
  have hidle : pulling.Unoccupied := ⟨unoccupied_panicky.workers, unoccupied_panicky.locks⟩
  obtain ⟨-, hcontained⟩ := FairRun.panics_contained hrun hidle counted_pulling rfl
  refine ⟨hrun, hidle, counted_pulling, rfl, ?_, ?_, by decide +kernel⟩
  · have hcall : (ticking pulling 11).workers[0]?.bind Worker.call? = some (.pull "nginx:latest") := by
      decide +kernel
    obtain ⟨w, hw, hcall⟩ := Option.bind_eq_some_iff.1 hcall
    obtain ⟨job, attempt, next, rfl⟩ := Worker.attempting_of_call? hcall
    obtain ⟨-, hpanics, -⟩ := hcontained 11 0 _ hw
    obtain ⟨step, final, -, hends⟩ := hpanics job attempt _ next rfl (some "boom")
    exact ⟨_, job, attempt, next, hw, rfl, step, final, hends⟩
  · have hjob : (ticking pulling 1).workers[0]?.bind Worker.job? = some rollout := by decide +kernel
    obtain ⟨w, hw, hjob⟩ := Option.bind_eq_some_iff.1 hjob
    obtain ⟨-, -, -, hends⟩ := hcontained 1 0 w hw
    obtain ⟨m, hle, -, hfinishes⟩ := hends rollout hjob
    exact ⟨m, hle, hfinishes⟩

end Orchestrator
