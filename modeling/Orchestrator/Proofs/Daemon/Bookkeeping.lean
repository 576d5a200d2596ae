import Orchestrator.Proofs.Daemon.Custody
import Orchestrator.Proofs.Daemon.Deeds
import Orchestrator.Proofs.Store.Records

/-!
# The books of a job follow its retry policy

Along a fair run a worker that begins a job ends it. The executor gives it one result after another
(`Results`), and they determine all that the worker does, how long it sleeps, what it tells the followers
and what is in the record of the job that the store then has: `FairRun.keeps_books`. Of the executor it is
only asked that it does not end the worker by a panic.
-/
namespace Orchestrator

open Daemon

/-! ## The results of a job's attempts -/

/-- The results that the executor has given for a job, one after another: all but the last are errors,
since no attempt follows a success. -/
structure Results where
  failed : List JobError
  last : Except JobError Unit

namespace Results

/-- How often the executor was called. -/
def calls (r : Results) : Nat := r.failed.length + 1

/-- The errors of the attempts that failed. -/
def errors (r : Results) : List JobError :=
  match r.last with
  | .ok () => r.failed
  | .error e => r.failed ++ [e]

/-- A job had no more attempts than it may have, and fewer only if the last succeeded. -/
def Within (policy : Nat) (r : Results) : Prop :=
  r.calls ≤ policy ∧ ∀ e, r.last = .error e → r.calls = policy

/-- What a worker does from a failed attempt up to the next one. -/
def retried (job : Job) (delay : Nat) (e : JobError) : List Deed :=
  [.returned (.error e), .told job.scope ⟨job.id, .retrying, e.message⟩, .slept delay, .called]

/-- What the followers are told at the end. -/
def lastTold (job : Job) : Except JobError Unit → Event
  | .ok () => ⟨job.id, .completed, job.kind.name⟩
  | .error e => ⟨job.id, .failed, e.message⟩

/-- What a worker does once the first attempt has begun. -/
def course (r : Results) (job : Job) (delay : Nat) (record : Activity) : List Deed :=
  r.failed.flatMap (retried job delay) ++
    [.returned r.last, .told job.scope (lastTold job r.last), .recorded record]

/-- What a worker does with a job. -/
def deeds (r : Results) (job : Job) (delay : Nat) (record : Activity) : List Deed :=
  [.told job.scope ⟨job.id, .started, job.kind.name⟩, .called] ++ r.course job delay record

/-- All calls but one have failed if the job succeeded, and otherwise as many as are allowed. -/
theorem Within.counts {r : Results} {policy : Nat} (h : r.Within policy) :
    (JobOutcome.of r.last = .succeeded ∧ r.errors.length = r.calls - 1) ∨
      (JobOutcome.of r.last = .failed ∧ r.errors.length = r.calls ∧ r.calls = policy) := by
  obtain ⟨failed, last⟩ := r
  cases last with
  | ok _ => exact .inl ⟨rfl, rfl⟩
  | error e => exact .inr ⟨rfl, List.length_append, h.2 e rfl⟩

end Results

/-! ## The job itself -/

/-- A job as a worker has it that has begun `first`: so many attempts were begun, and some have failed,
with these errors. -/
structure Job.Tried (first : Job) (start : Instant) (calls : Nat) (errors : List JobError) (job : Job) :
    Prop where
  id : job.id = first.id
  scope : job.scope = first.scope
  kind : job.kind = first.kind
  attempts : job.attempts = first.attempts
  enqueuedAt : job.enqueuedAt = first.enqueuedAt
  startedAt : job.startedAt = some start
  executions : job.status.executionCount.toNat = calls
  failures : job.status.failureCount.toNat = errors.length
  errors : job.status.errors = errors.map JobError.message

/-- A record says of a job what its status and its times say: whether it has succeeded, how often it was
tried and how often in vain, the errors, and when it was accepted, begun and finished. -/
structure Activity.Mirrors (record : Activity) (job : Job) : Prop where
  jobId : record.jobId = job.id
  scope : record.scope = job.scope
  kind : record.kind = job.kind.name
  succeeded : record.succeeded = true ↔ job.status.outcome = some .succeeded
  executionCount : record.executionCount = job.status.executionCount
  failureCount : record.failureCount = job.status.failureCount
  errors : record.errors = job.status.errors
  enqueuedAt : record.enqueuedAt = job.enqueuedAt
  startedAt : record.startedAt = job.startedAt
  completedAt : job.completedAt = some record.completedAt

/-- The record of a job that is finished mirrors it, whenever it is made. -/
theorem Job.mirrors_activity {job : Job} (h : job.isComplete) (now : Instant) :
    (job.activity now).Mirrors job where
  jobId := rfl
  scope := rfl
  kind := rfl
  succeeded := decide_eq_true_iff
  executionCount := rfl
  failureCount := rfl
  errors := rfl
  enqueuedAt := rfl
  startedAt := rfl
  completedAt := by
    obtain ⟨done, hdone⟩ := Option.isSome_iff_exists.1 h
    rw [activity, hdone, Option.getD_some]

variable {run : Nat → Daemon} {s t : Daemon} {i n m k delay attempt : Nat} {w w' : Worker}
  {first job job' : Job} {start : Instant} {failed : List JobError} {last : Except JobError Unit}
  {rest : AttemptProgram}

namespace Job.Tried

theorem started (h : job.status = {}) (start : Instant) : Tried job start 0 [] (job.started start) :=
  ⟨rfl, rfl, rfl, rfl, rfl, rfl, by simp [Job.started, h], by simp [Job.started, h],
    by simp [Job.started, h]⟩

theorem attempted (h : Tried first start attempt failed job) (hlt : attempt + 1 < 2 ^ 32) :
    Tried first start (attempt + 1) failed job.attempted := by
  refine ⟨h.id, h.scope, h.kind, h.attempts, h.enqueuedAt, h.startedAt, ?_, h.failures, h.errors⟩
  simp only [Job.attempted, UInt32.toNat_add, h.executions]
  exact Nat.mod_eq_of_lt hlt

theorem withFailure (h : Tried first start attempt failed job) (e : JobError)
    (hlt : failed.length + 1 < 2 ^ 32) :
    Tried first start attempt (failed ++ [e]) (job.withFailure e.message) := by
  refine ⟨h.id, h.scope, h.kind, h.attempts, h.enqueuedAt, h.startedAt, h.executions, ?_, ?_⟩
  · simp only [Job.withFailure, UInt32.toNat_add, List.length_append, List.length_singleton, h.failures]
    exact Nat.mod_eq_of_lt hlt
  · simp [Job.withFailure, h.errors]

/-- An attempt gives its job back with other containers at most. -/
theorem givenBack (h : Tried first start attempt failed job)
    (hjob : job' = { job with work := job'.work } ∧ job'.kind = job.kind) :
    Tried first start attempt failed job' := by
  obtain ⟨hsame, hkind⟩ := hjob
  refine ⟨?_, ?_, hkind.trans h.kind, ?_, ?_, ?_, ?_, ?_, ?_⟩ <;> rw [hsame]
  exacts [h.id, h.scope, h.attempts, h.enqueuedAt, h.startedAt, h.executions, h.failures, h.errors]

/-- The job as it is finished. -/
theorem final (h : Tried first start attempt failed job) (hcount : failed.length + 1 = attempt)
    (hlt : attempt < 2 ^ 32) (s : Daemon) (last : Except JobError Unit) :
    Tried first start attempt (Results.mk failed last).errors (s.final job last) := by
  cases last with
  | ok _ => exact ⟨h.id, h.scope, h.kind, h.attempts, h.enqueuedAt, h.startedAt, h.executions,
      h.failures, h.errors⟩
  | error e =>
    have h' := h.withFailure e (hcount ▸ hlt)
    exact ⟨h'.id, h'.scope, h'.kind, h'.attempts, h'.enqueuedAt, h'.startedAt, h'.executions,
      h'.failures, h'.errors⟩

/-- From a failed attempt up to the next one a worker takes two steps. -/
theorem deeds_retry (h : Tried first start attempt failed job) {e : JobError} {begun next : Job}
    {wake : Nat} (hwake : wake = s.now + delay) :
    ((Worker.attempting begun attempt (.done (.error (.error e), job))).deeds s
        (.resting next attempt wake)).filter (!·.announcesStep) ++
      ((Worker.resting next attempt wake).deeds t
        (.attempting next.attempted (attempt + 1) rest)).filter (!·.announcesStep)
      = Results.retried first delay e := by
  simp [Worker.deeds, Deed.announcesStep, Results.retried, h.scope, h.id, hwake]

/-- From the end of the last attempt to the end of the job it takes one. -/
theorem deeds_last (h : Tried first start attempt failed job) {begun : Job} :
    ((Worker.attempting begun attempt (.done (last.mapError .error, job))).deeds s .idle).filter
        (!·.announcesStep)
      = [.returned last, .told first.scope (Results.lastTold first last),
          .recorded ((s.final job last).activity s.stamp.1)] := by
  cases last with
  | ok _ =>
    rw [Results.lastTold, ← h.scope, ← h.id, ← h.kind]
    rfl
  | error e =>
    have hlast : (s.final job (.error e)).status.errors.getLast?.getD "" = e.message := by
      simp [Daemon.final, Job.noted, Job.completed, Job.withFailure]
    rw [Results.lastTold, ← h.scope, ← h.id, ← hlast]
    rfl

end Job.Tried

/-! ## Steps -/

namespace Daemon

theorem Moves.begun (h : s.Moves i (.locking job) w' t) :
    ∃ rest, (job.started s.stamp.1).attempted.Stepwise rest ∧
      w' = .attempting (job.started s.stamp.1).attempted 1 rest := by
  obtain ⟨pool, -, -, hmove⟩ := h
  cases hmove with
  | step h =>
    cases h with
    | first _ => exact ⟨_, Executor.stepwise_begin .., rfl⟩

theorem Moves.again {wake : Nat} (h : s.Moves i (.resting job attempt wake) w' t) :
    wake ≤ s.now ∧ ∃ rest, job.attempted.Stepwise rest ∧ w' = .attempting job.attempted (attempt + 1) rest := by
  obtain ⟨pool, -, -, hmove⟩ := h
  cases hmove with
  | step h =>
    cases h with
    | again hwake => exact ⟨hwake, _, Executor.stepwise_begin .., rfl⟩

theorem Moves.woken {wake : Nat} (h : s.Moves i (.sleeping job attempt wake rest) w' t) :
    w' = .attempting job attempt rest := by
  obtain ⟨pool, -, -, hmove⟩ := h
  cases hmove with
  | step h =>
    cases h with
    | wake _ => rfl

theorem Moves.asked {r : Request} {next : r.Answer → AttemptProgram}
    (h : s.Moves i (.attempting job attempt (.ask r next)) w' t) :
    ∃ answer, w' = .attempting job attempt (next answer) ∨
      ∃ wake, w' = .sleeping job attempt wake (next answer) := by
  obtain ⟨pool, -, -, hmove⟩ := h
  cases hmove with
  | reply reply _ => exact ⟨reply, .inl rfl⟩
  | step h =>
    cases h with
    | pause => exact ⟨(), .inr ⟨_, rfl⟩⟩
    | ask _ => exact ⟨_, .inl rfl⟩

/-- An attempt has ended: it is followed by another, or the job is finished, or the worker ends in the
attempt's panic. -/
theorem Moves.returned {result : Except (Failure JobError) Unit}
    (h : s.Moves i (.attempting job attempt (.done (result, job'))) w' t) :
    (∃ e pool, result = .error (.error e) ∧ s.pool = some pool ∧ attempt < max job'.attempts.toNat 1 ∧
      w' = .resting (job'.withFailure e.message) attempt (s.now + pool.retryDelay)) ∨
    (∃ last, result = last.mapError .error ∧
      (∀ e, last = .error e → ¬ attempt < max job'.attempts.toNat 1) ∧ w' = .idle ∧
      t = s.complete i (job'.noted last) (.of last)) ∨
    w' = .crashed job' := by
  obtain ⟨pool, hpool, -, hmove⟩ := h
  cases hmove with
  | step h =>
    cases h with
    | retry hmore => exact .inl ⟨_, pool, rfl, hpool, hmore, rfl⟩
    | succeed => exact .inr (.inl ⟨.ok (), rfl, nofun, rfl, rfl⟩)
    | fail hlast => exact .inr (.inl ⟨.error _, rfl, fun _ _ => hlast, rfl, rfl⟩)
    | crash => exact .inr (.inr rfl)

/-- In this step a worker finishes the job `first`, which it has begun at the time `start`, after these
results: the numbers, the errors and the times in it are right, it is handed on, a record that mirrors it
is put into the activity log, and the worker is idle again. -/
structure Closes (s : Daemon) (i : Nat) (first : Job) (start : Instant) (r : Results) (final : Job)
    (record : Activity) (t : Daemon) : Prop where
  within : r.Within first.attempts.toNat
  tried : first.Tried start r.calls r.errors final
  outcome : final.status.outcome = some (.of r.last)
  completedAt : final.completedAt = some s.stamp.1
  finished : t.finished = s.finished ++ [(final, s.now)]
  mirrors : record.Mirrors final
  store : t.store = s.store.recordActivity record
  /-- The record is read back from the log as it was put there. -/
  logged : t.store.decoded? Activity.ofJson Store.activityCollection record.tableKey = .ok (some record)
  /-- Nothing else in the store is touched. -/
  others : ∀ collection key, (collection, key) ≠ (Store.activityCollection, record.tableKey) →
    t.store.get? collection key = s.store.get? collection key
  idle : t.workers[i]? = some .idle

/-- The worker is given the last result. -/
theorem Moves.closes (h : s.Moves i w .idle (s.complete i (job.noted last) (.of last)))
    (htried : first.Tried start attempt failed job) (hcount : failed.length + 1 = attempt)
    (hwithin : (Results.mk failed last).Within first.attempts.toNat) :
    Closes s i first start ⟨failed, last⟩ (s.final job last) ((s.final job last).activity s.stamp.1)
      (s.complete i (job.noted last) (.of last)) := by
  subst hcount
  have hlt := Nat.lt_of_le_of_lt hwithin.1 first.attempts.toNat_lt
  exact {
    within := hwithin
    tried := htried.final rfl hlt s last
    outcome := rfl
    completedAt := rfl
    finished := rfl
    mirrors := Job.mirrors_activity rfl _
    store := rfl
    logged := Store.decoded?_recordActivity _ _
    others := fun _ _ hne => Store.get?_recordActivity_of_ne _ hne
    idle := h.worker }

end Daemon

/-! ## Books along a run -/

/-- Without the steps that attempts announce, this is what a worker does from one time to another. -/
def Books (run : Nat → Daemon) (i n m : Nat) (deeds : List Deed) : Prop :=
  ∃ all, Does run i n m all ∧ all.filter (!·.announcesStep) = deeds

/-- The worker's next step, and what it does after it. -/
theorem Books.next {deeds : List Deed} (hle : n ≤ m) (hstill : Still run i n m)
    (hmove : (run m).Moves i w w' (run (m + 1))) (h : Books run i (m + 1) k deeds) :
    Books run i n k ((w.deeds (run m) w').filter (!·.announcesStep) ++ deeds) := by
  obtain ⟨all, hdoes, rfl⟩ := h
  refine ⟨_, ((Does.of_still hstill hle).move hmove).append hdoes, ?_⟩
  rw [List.nil_append, List.filter_append]

theorem Books.stop (n : Nat) : Books run i n n [] := ⟨[], .start, rfl⟩

/-- The worker that has begun `first` finishes it. Some attempts have `failed` before the time `n`; with
the results that are still to come they keep to the policy, and the worker does what those call for. -/
def Concludes (run : Nat → Daemon) (i delay : Nat) (first : Job) (start : Instant) (n : Nat)
    (failed : List JobError) : Prop :=
  ∃ m more last final record, n ≤ m ∧
    Closes (run m) i first start ⟨failed ++ more, last⟩ final record (run (m + 1)) ∧
    Books run i n (m + 1) (Results.course ⟨more, last⟩ first delay record)

theorem Concludes.of_silent (h : Concludes run i delay first start (m + 1) failed) (hle : n ≤ m)
    (hstill : Still run i n m) (hmove : (run m).Moves i w w' (run (m + 1)))
    (hsilent : (w.deeds (run m) w').filter (!·.announcesStep) = []) :
    Concludes run i delay first start n failed := by
  obtain ⟨k, more, last, final, record, hk, hcloses, hbooks⟩ := h
  refine ⟨k, more, last, final, record, hle.trans (Nat.le_of_succ_le hk), hcloses, ?_⟩
  simpa [hsilent] using hbooks.next hle hstill hmove

/-- An attempt has failed, and is followed by another. -/
theorem Concludes.of_retry {e : JobError} {begun next : Job} {wake : Nat}
    (h : Concludes run i delay first start (k + 1) (failed ++ [e]))
    (htried : first.Tried start attempt failed job) (hle : n ≤ m) (hstill : Still run i n m)
    (hmove : (run m).Moves i (.attempting begun attempt (.done (.error (.error e), job)))
      (.resting next attempt wake) (run (m + 1)))
    (hwake : wake = (run m).now + delay) (hle' : m + 1 ≤ k) (hstill' : Still run i (m + 1) k)
    (hmove' : (run k).Moves i (.resting next attempt wake)
      (.attempting next.attempted (attempt + 1) rest) (run (k + 1))) :
    Concludes run i delay first start n failed := by
  obtain ⟨l, more, last, final, record, hl, hcloses, hbooks⟩ := h
  refine ⟨l, e :: more, last, final, record, by omega, by simpa using hcloses, ?_⟩
  have hall := (hbooks.next hle' hstill' hmove').next hle hstill hmove
  rw [← List.append_assoc, htried.deeds_retry hwake] at hall
  simpa [Results.course] using hall

/-- An attempt is not followed by another. -/
theorem Concludes.of_last {begun : Job} (htried : first.Tried start attempt failed job)
    (hcount : failed.length + 1 = attempt) (hle : attempt ≤ first.attempts.toNat)
    (hlast : ∀ e, last = .error e → ¬ attempt < max job.attempts.toNat 1) (hnm : n ≤ m)
    (hstill : Still run i n m)
    (hmove : (run m).Moves i (.attempting begun attempt (.done (last.mapError .error, job))) .idle
      (run (m + 1)))
    (hcomplete : run (m + 1) = (run m).complete i (job.noted last) (.of last)) :
    Concludes run i delay first start n failed := by
  have hwithin : (Results.mk failed last).Within first.attempts.toNat := by
    refine ⟨hcount.trans_le hle, fun e he => ?_⟩
    have := hlast e he
    rw [htried.attempts] at this
    simp only [Results.calls, hcount]
    omega
  have hcloses := Moves.closes (hcomplete ▸ hmove) htried hcount hwithin
  have hbooks := (Books.stop (m + 1)).next hnm hstill hmove
  rw [← hcomplete, ← List.append_nil failed] at hcloses
  rw [htried.deeds_last, List.append_nil] at hbooks
  exact ⟨m, [], last, _, _, hnm, hcloses, hbooks⟩

/-- A worker that makes an attempt concludes its job, whatever the attempt is answered. -/
theorem FairRun.concludes (hrun : FairRun run)
    (hdelay : ∀ k, (run k).pool.map Pool.retryDelay = some delay)
    (hcrash : ∀ k job, (run k).workers[i]? ≠ some (.crashed job))
    (hw : (run n).workers[i]? = some (.attempting job attempt rest))
    (htried : first.Tried start attempt failed job) (hcount : failed.length + 1 = attempt)
    (hle : attempt ≤ first.attempts.toNat) (hrest : job.Stepwise rest) :
    Concludes run i delay first start n failed := by
  -- the outer induction is on the attempts that are left, the inner one on the requests of this one
  induction hfuel : first.attempts.toNat - attempt using Nat.strongRecOn
    generalizing n job attempt rest failed with
  | ind fuel ih =>
    induction rest generalizing n with
    | ask r next ihnext =>
      obtain ⟨m, hnm, hstill, w', hmove⟩ := hrun.moves hw n fun _ _ _ _ => trivial
      have hsilent : ((Worker.attempting job attempt (.ask r next)).deeds (run m) w').filter
          (!·.announcesStep) = [] := Worker.deeds_ask hrest.1
      obtain ⟨answer, rfl | ⟨wake, rfl⟩⟩ := hmove.asked
      · exact (ihnext answer hmove.worker (hrest.2 answer () trivial)).of_silent hnm hstill hmove hsilent
      · obtain ⟨m', hnm', hstill', w'', hmove'⟩ := hrun.moves_after hmove.worker wake fun _ h => h
        obtain rfl := hmove'.woken
        have hlater := ihnext answer hmove'.worker (hrest.2 answer () trivial)
        exact (hlater.of_silent hnm' hstill' hmove' rfl).of_silent hnm hstill hmove hsilent
    | done result =>
      obtain ⟨result, job'⟩ := result
      have htried' : first.Tried start attempt failed job' := htried.givenBack hrest
      obtain ⟨m, hnm, hstill, w', hmove⟩ := hrun.moves hw n fun _ _ _ _ => trivial
      rcases hmove.returned with ⟨e, pool, rfl, hpool, hmore, rfl⟩ | ⟨last, rfl, hlast, rfl, ht⟩ | rfl
      · obtain ⟨k, hmk, hstill', w'', hmove'⟩ := hrun.moves_after hmove.worker _ fun _ h => h
        obtain ⟨-, rest', hrest', rfl⟩ := hmove'.again
        have hdelay' : pool.retryDelay = delay := by simpa [hpool] using hdelay m
        have hbound := first.attempts.toNat_lt
        rw [htried'.attempts] at hmore
        have hagain := (htried'.withFailure e (by omega)).attempted (by omega)
        exact (ih _ (by omega) hmove'.worker hagain (by simp [hcount]) (by omega) hrest' rfl).of_retry
          htried' hnm hstill hmove (by rw [hdelay']) hmk hstill' hmove'
      · exact .of_last htried' hcount hle hlast hnm hstill hmove ht
      · exact absurd hmove.worker (hcrash _ _)

/-! ## Sleeps -/

/-- A deed that is a sleep leaves the worker at rest. -/
theorem Worker.resting_of_slept {milliseconds : Nat} (h : .slept milliseconds ∈ w.deeds s w') :
    ∃ job attempt wake, w' = .resting job attempt wake ∧ milliseconds = wake - s.now := by
  unfold Worker.deeds at h
  split at h <;> simp [Daemon.lastDeeds] at h
  exact ⟨_, _, _, rfl, h⟩

/-- A worker that goes to sleep takes its next step once the time has gone by, and not before. -/
theorem FairRun.sleeps (hrun : FairRun run) {milliseconds : Nat} {v v' : Worker}
    (hmove : (run n).Moves i w w' (run (n + 1))) (hslept : .slept milliseconds ∈ w.deeds (run n) w')
    (hlt : n < m) (hlater : (run m).Moves i v v' (run (m + 1))) :
    (run n).now + milliseconds ≤ (run m).now := by
  obtain ⟨job, attempt, wake, rfl, rfl⟩ := Worker.resting_of_slept hslept
  have hnow := hrun.now_le (Nat.le_of_lt hlt)
  rcases hrun.still_or_moves hmove.worker with hstill | ⟨k, hle, hstill, u, hnext⟩
  · exact absurd hlater (hstill (m + 1) m hlt (Nat.lt_succ_self m) v v')
  · have hkm : k ≤ m := Nat.le_of_not_lt fun hmk => hstill m hlt hmk v v' hlater
    have hwake := hnext.again.1.trans (hrun.now_le hkm)
    omega

/-! ## Executors that never panic -/

namespace Daemon

/-- No worker has ended in a panic, and no attempt of the executor does. -/
structure Returning (s : Daemon) : Prop where
  workers : ∀ w ∈ s.workers, w.Returns
  executor : ∀ executor ∈ s.pool.map Pool.executor, executor.Returns

theorem Moves.returning (h : s.Moves i w w' t) (hs : s.Returning) : t.Returning := by
  have split := fun P : Worker → Prop => h.forall_workers (P := P)
  obtain ⟨pool, hpool, hw, hmove⟩ := h
  have hreturns : w.Returns := hs.workers w (List.mem_of_getElem? hw)
  have hexecutor := hs.executor
  rw [hpool] at hexecutor
  cases hmove with
  | reply reply _ =>
    refine ⟨split _ hs.workers ⟨hreturns.1.2 reply () trivial, fun _ h => (by cases h)⟩, ?_⟩
    simpa [setWorker, hpool] using hexecutor
  | step hstep =>
    refine ⟨split _ hs.workers (hstep.returns (hexecutor _ rfl) hreturns), ?_⟩
    obtain ⟨pool', hpool', hnext⟩ := hstep.executor_returns hpool (hexecutor _ rfl)
    simpa [hpool'] using hnext

theorem Beside.returning (h : Beside s t) (hs : s.Returning) : t.Returning where
  workers w hw := hs.workers w (h.workers ▸ hw)
  executor executor hexecutor := hs.executor executor (h.executor ▸ hexecutor)

end Daemon

theorem FairRun.returning (hrun : FairRun run) (h : (run 0).Returning) (n : Nat) : (run n).Returning :=
  hrun.always h (fun _ _ _ _ _ h hs => h.returning hs) (fun _ _ h hs => h.returning hs) n

theorem FairRun.not_crashed (hrun : FairRun run) (h : (run 0).Returning) (n : Nat) (job : Job) :
    (run n).workers[i]? ≠ some (.crashed job) := fun hw =>
  ((hrun.returning h n).workers _ (List.mem_of_getElem? hw)).2 job rfl

/-! ## Books are kept -/

theorem Job.attempts_of_validate (h : job.validate = .ok ()) : 1 ≤ job.attempts.toNat := by
  unfold Job.validate at h
  split at h
  · cases h
  · split at h
    · cases h
    · split at h
      · cases h
      · next hsome => exact UInt32.le_iff_toNat_le.1 (UInt32.not_lt.1 hsome)

/-- A worker that begins a job calls the executor for it until an attempt succeeds or as many as the
policy allows have failed, and then finishes it. In between it does what the results call for, and
nothing else: it tells that the job has started; after each failed attempt that is followed by another
it tells of its error, and sleeps for the retry delay; at the end it tells that the job has completed,
or has failed with the last error, and puts one record that mirrors the job as it is then into the activity
log. The job counts all calls, and keeps the errors of all failed attempts in their order. -/
theorem FairRun.keeps_books (hrun : FairRun run)
    (hdelay : ∀ k, (run k).pool.map Pool.retryDelay = some delay)
    (hcrash : ∀ k job, (run k).workers[i]? ≠ some (.crashed job)) (hfresh : job.status = {})
    (hvalid : job.validate = .ok ()) (hbegin : (run n).Moves i (.locking job) w' (run (n + 1))) :
    (∃ m r final record, n < m ∧
      Books run i n (m + 1) (r.deeds job delay record) ∧
      Closes (run m) i job (run n).stamp.1 r final record (run (m + 1)) ∧
      ((final.status.outcome = some .succeeded ∧ final.status.failureCount.toNat = r.calls - 1) ∨
        (final.status.outcome = some .failed ∧ final.status.failureCount.toNat = r.calls ∧
          r.calls = job.attempts.toNat))) ∧
    ∀ k v v', (run k).Moves i v v' (run (k + 1)) → Honest (run k) v v' (run (k + 1)) ∧
      ∀ milliseconds, .slept milliseconds ∈ v.deeds (run k) v' →
        ∀ k' u u', k < k' → (run k').Moves i u u' (run (k' + 1)) →
          (run k).now + milliseconds ≤ (run k').now := by
  refine ⟨?_, fun k v v' hmove => ⟨hmove.honest, fun milliseconds hslept k' u u' hlt hlater =>
    hrun.sleeps hmove hslept hlt hlater⟩⟩
  obtain ⟨rest, hrest, rfl⟩ := hbegin.begun
  obtain ⟨m, more, last, final, record, hle, hcloses, hbooks⟩ := hrun.concludes hdelay hcrash hbegin.worker
    ((Job.Tried.started hfresh _).attempted (by decide)) rfl (Job.attempts_of_validate hvalid) hrest
  have hall := hbooks.next (Nat.le_refl n) (fun k hk hlt => absurd hk (Nat.not_le.2 hlt)) hbegin
  refine ⟨m, ⟨more, last⟩, final, record, hle, hall, hcloses, ?_⟩
  · rw [hcloses.outcome, hcloses.tried.failures]
    rcases hcloses.within.counts with ⟨houtcome, hcount⟩ | ⟨houtcome, hcount, hpolicy⟩
    · exact .inl ⟨congrArg some houtcome, hcount⟩
    · exact .inr ⟨congrArg some houtcome, hcount, hpolicy⟩

theorem ticking_retryDelay (h : s.pool.map Pool.retryDelay = some delay) (n : Nat) :
    (ticking s n).pool.map Pool.retryDelay = some delay := by
  induction n with
  | zero => exact h
  | succ n ih =>
    rw [ticking, Daemon.tick]
    split
    · cases hstep : (ticking s n).stepWorker (n / 2 % (ticking s n).workers.length) with
      | none => exact ih
      | some t =>
        obtain ⟨pool, w, w', hpool, -, hcases⟩ := stepWorker_cases hstep
        obtain ⟨executor, ht, -⟩ := hcases.pool_eq hpool
        rw [hpool] at ih
        rw [Option.getD_some, ht]
        exact ih
    · exact ih

/-- One worker, whose executor fails twice and then succeeds. -/
def flaky : Daemon where
  queue := .new 4
  pool := some { (Pool.new 1).start with
    retryDelay := 2
    executor := (Executor.scripted ∅).arrange "api"
      [⟨1, .failure "registry unavailable"⟩, ⟨0, .refusal .queueFull⟩, ⟨0, .success⟩] }

/-- A job that may be tried five times. -/
def patient : Job := .create ⟨1⟩ .epoch (.new "api" "nginx") 5

/-- The daemon has accepted it. -/
def trying : Daemon := (flaky.offer patient).2

theorem returning_trying : trying.Returning where
  workers w hw := by
    obtain rfl : w = .idle := List.eq_of_mem_replicate (n := 1) hw
    exact ⟨trivial, fun _ h => nomatch h⟩
  executor := by
    rintro _ ⟨⟩
    have hnothing : (Executor.scripted ∅).Returns := fun _ _ h => nomatch h
    exact hnothing.arrange (by simp)

/-- The record of its job. -/
def patientRecord : Activity where
  jobId := ⟨1⟩
  scope := "api"
  kind := "create"
  succeeded := true
  executionCount := 3
  failureCount := 2
  errors := ["workflow create: step scripted failed: registry unavailable", "job queue is full"]
  enqueuedAt := .epoch
  startedAt := some (after .epoch 1)
  completedAt := after .epoch 2

set_option maxRecDepth 8000 in
/-- The log has it, and no other record. -/
theorem values_trying : ((ticking trying 40).store.values Store.activityCollection).map
    (Store.decode Activity.ofJson) = [.ok patientRecord] := by
  have hvalues : (ticking trying 40).store.values Store.activityCollection =
      [Store.encode patientRecord.toJson] := rfl
  rw [hvalues, List.map_singleton, Store.decode_activity]

/-- The job is tried three times: it keeps both errors, and succeeds. Its record is in the log. -/
theorem keeps_books_trying : FairRun (ticking trying) ∧
    (∀ k, (ticking trying k).pool.map Pool.retryDelay = some 2) ∧
    (∀ k job, (ticking trying k).workers[0]? ≠ some (.crashed job)) ∧
    patient.status = {} ∧ patient.validate = .ok () ∧
    (∃ w', (ticking trying 4).Moves 0 (.locking patient) w' (ticking trying 5)) ∧
    (∃ m r final record, 4 < m ∧
      Books (ticking trying) 0 4 (m + 1) (r.deeds patient 2 record) ∧
      Closes (ticking trying m) 0 patient (ticking trying 4).stamp.1 r final record
        (ticking trying (m + 1))) ∧
    (ticking trying 40).finished.map (fun p => p.1.status) = [{
      executionCount := 3
      failureCount := 2
      errors := ["workflow create: step scripted failed: registry unavailable", "job queue is full"]
      outcome := some .succeeded }] ∧
    ((ticking trying 40).store.values Store.activityCollection).map (Store.decode Activity.ofJson) =
      [.ok patientRecord] := by
  have hrun := fairRun_ticking trying
  have hcrash : ∀ k job, (ticking trying k).workers[0]? ≠ some (.crashed job) :=
    hrun.not_crashed returning_trying
  have hdelay : ∀ k, (ticking trying k).pool.map Pool.retryDelay = some 2 := ticking_retryDelay rfl
  have hbegin : ∃ w', (ticking trying 4).Moves 0 (.locking patient) w' (ticking trying 5) := by
    have hview : (ticking trying 4).view "api" 0 = some (⟨1⟩, false) := by decide +kernel
    have hjob : (ticking trying 4).workers[0]?.bind Worker.job? = some patient := by decide +kernel
    obtain ⟨w, hw, hjob⟩ := Option.bind_eq_some_iff.1 hjob
    rw [view_eq hw] at hview
    obtain rfl : w = .locking patient := by
      cases w <;> simp_all [Worker.view, Worker.job?]
    have hfirst : ((ticking trying 4).locks.line "api").head? = some 0 := by decide +kernel
    exact moves_ticking trying rfl (by decide +kernel) hw hfirst
  have hvalid : patient.validate = .ok () := by decide +kernel
  obtain ⟨w', hmove⟩ := hbegin
  obtain ⟨⟨m, r, final, record, hlt, hbooks, hcloses, -⟩, -⟩ :=
    hrun.keeps_books hdelay hcrash rfl hvalid hmove
  exact ⟨hrun, hdelay, hcrash, rfl, hvalid, ⟨w', hmove⟩, ⟨m, r, final, record, hlt, hbooks, hcloses⟩,
    by decide +kernel, values_trying⟩

end Orchestrator
