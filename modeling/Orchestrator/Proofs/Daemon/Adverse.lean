import Orchestrator.Proofs.Drift.Flight
import Orchestrator.Proofs.Program.Panics

/-!
# Workers and an engine that answers as it likes

A worker's call to the engine may be answered by any value, any error and any panic, and the engine may
be anything afterwards: `Daemon.Move`. Others may do what they like with store, engine, followers and
clock, and have jobs accepted: `Daemon.Beside`, which is all that producers, the watcher for drift,
deliveries and sockets ever do (`beside_step?`). Whatever happens, a daemon that runs the workflows of
jobs stays as `Daemon.Sane` says: attempts contain the panics of their calls, the lines for the locks
are in order, and the counts of jobs in flight are right.
-/
namespace Orchestrator

open Daemon

variable {s t : Daemon} {pool : Pool} {i : Nat} {w w' : Worker}

/-! ## What workers and others do -/

namespace Daemon

/-- A worker's step, where the engine may answer the call of an attempt as it likes. -/
inductive Move (s : Daemon) (pool : Pool) (i : Nat) : Worker → Worker → Daemon → Prop
  | step {w w' : Worker} {t : Daemon} (h : WorkerStep s pool i w w' t) : Move s pool i w w' t
  | reply {job : Job} {attempt : Nat} {c : Engine.Call}
    {next : (Request.engine c).Answer → AttemptProgram} (reply : c.Reply)
    (engine : Engine.FaultyEngine) :
    Move s pool i (.attempting job attempt (.ask (.engine c) next))
      (.attempting job attempt (next reply))
      ({ s with engine := engine }.setWorker i (.attempting job attempt (next reply)))

/-- A worker goes from one state to another. -/
def Moves (s : Daemon) (i : Nat) (w w' : Worker) (t : Daemon) : Prop :=
  ∃ pool, s.pool = some pool ∧ s.workers[i]? = some w ∧ Move s pool i w w' t

/-- Jobs are accepted, and each is counted. -/
def Accepts (q q' : Queue) : Prop :=
  ∃ jobs : List Job, (∀ job ∈ jobs, job.validate = .ok ()) ∧ q'.line = q.line ++ jobs ∧
    q'.inFlight = jobs.foldl (fun f job => f.acquire job.scope) q.inFlight

/-- What others than the workers may do beside them. -/
structure Beside (s t : Daemon) : Prop where
  workers : t.workers = s.workers
  executor : t.pool.map Pool.executor = s.pool.map Pool.executor
  locks : t.locks = s.locks
  queue : Accepts s.queue t.queue
  now : s.now ≤ t.now

/-! ## Others are beside the workers -/

theorem accepts_of_eq {q q' : Queue} (hline : q'.line = q.line) (hcounts : q'.inFlight = q.inFlight) :
    Accepts q q' :=
  ⟨[], by simp, by simp [hline], hcounts⟩

theorem accepts_offer (q : Queue) (job : Job) : Accepts q (q.offer job).2 := by
  unfold Queue.offer
  split
  · exact accepts_of_eq rfl rfl
  · rename_i hvalid
    split
    · exact accepts_of_eq rfl rfl
    · split
      · exact ⟨[job], by simpa using hvalid, rfl, rfl⟩
      · exact accepts_of_eq rfl rfl

theorem Beside.of_eq (hpool : t.pool = s.pool) (hlocks : t.locks = s.locks)
    (hqueue : Accepts s.queue t.queue) (hnow : t.now = s.now) : Beside s t :=
  ⟨by rw [Daemon.workers, hpool]; rfl, by rw [hpool], hlocks, hqueue, Nat.le_of_eq hnow.symm⟩

theorem beside_serve (r : Request) (s : Daemon) : Beside s (s.serve r).2 := by
  cases r with
  | offer config attempts => exact .of_eq rfl rfl (accepts_offer _ _) rfl
  | _ => exact .of_eq rfl rfl (accepts_of_eq rfl rfl) rfl

theorem beside_stepProducer {ticket : Ticket} (hs : s.Vetted) (h : s.stepProducer ticket = some t) :
    Beside s t := by
  unfold stepProducer at h
  obtain ⟨p, hp, h⟩ := Option.bind_eq_some_iff.1 h
  have hvalid : p.job.validate = .ok () := hs p (List.mem_of_find?_eq_some hp)
  dsimp only at h
  split at h
  · cases h
  · obtain rfl := Option.some.inj h
    exact .of_eq rfl rfl ⟨[p.job], by simpa using hvalid, rfl, rfl⟩ rfl
  · obtain rfl := Option.some.inj h
    exact .of_eq rfl rfl (accepts_of_eq rfl rfl) rfl

theorem beside_stepWatcher (h : s.stepWatcher = some t) : Beside s t := by
  unfold stepWatcher at h
  obtain ⟨watch, -, h⟩ := Option.bind_eq_some_iff.1 h
  dsimp only at h
  have kept : ∀ w : Watch, Beside s { s with watch := some w } := fun w =>
    .of_eq rfl rfl (accepts_of_eq rfl rfl) rfl
  split at h
  · split at h <;> exact Option.some.inj h ▸ kept _
  · exact Option.some.inj h ▸ kept _
  · rename_i r next _
    obtain rfl := Option.some.inj h
    have hserve := beside_serve r s
    exact ⟨hserve.workers, hserve.executor, hserve.locks, hserve.queue, hserve.now⟩
  · split at h
    · exact Option.some.inj h ▸ kept _
    · split at h
      · exact Option.some.inj h ▸ kept _
      · cases h
  · cases h

theorem beside_stepSocket (h : s.stepSocket i = some t) : Beside s t := by
  unfold stepSocket at h
  obtain ⟨socket, -, h⟩ := Option.bind_eq_some_iff.1 h
  split at h
  · cases h
  · obtain ⟨wake, -, h⟩ := Option.bind_eq_some_iff.1 h
    have consumed : (s.consume i socket wake).pool = s.pool ∧
        (s.consume i socket wake).locks = s.locks ∧ (s.consume i socket wake).queue = s.queue ∧
        (s.consume i socket wake).now = s.now := by
      cases wake <;> exact ⟨rfl, rfl, rfl, rfl⟩
    obtain ⟨hpool, hlocks, hqueue, hnow⟩ := consumed
    obtain rfl := Option.some.inj h
    split
    · exact .of_eq hpool hlocks (accepts_of_eq (congrArg Queue.line hqueue)
        (congrArg Queue.inFlight hqueue)) hnow
    · exact .of_eq hpool hlocks (accepts_of_eq (congrArg Queue.line hqueue)
        (congrArg Queue.inFlight hqueue)) hnow

/-- All that those who are no workers do on their own is beside the workers. -/
theorem beside_step? {a : Actor} (ha : ∀ i, a ≠ .worker i) (hs : s.Vetted) (h : s.step? a = some t) :
    Beside s t := by
  cases a with
  | worker i => exact absurd rfl (ha i)
  | producer ticket => exact beside_stepProducer hs h
  | watcher => exact beside_stepWatcher h
  | socket i => exact beside_stepSocket h
  | delivery i =>
    obtain ⟨hub, -, rfl⟩ := Option.map_eq_some_iff.1 h
    exact .of_eq rfl rfl (accepts_of_eq rfl rfl) rfl

/-- And so is the clock. -/
theorem beside_later (s : Daemon) {now : Nat} (h : s.now ≤ now) : Beside s { s with now := now } :=
  ⟨rfl, rfl, rfl, accepts_of_eq rfl rfl, h⟩

end Daemon

/-! ## Attempts contain panics -/

namespace Worker

/-- The worker has not ended in a panic, and its attempt is the rest of the workflow of its job. -/
def Contained : Worker → Prop
  | .attempting job _ rest | .sleeping job _ _ rest =>
    ∃ fleet trace, (Executor.performWorkflow fleet job).Follows trace rest
  | .crashed _ => False
  | _ => True

/-- An attempt that has ended has ended with its job, without a panic. -/
theorem Contained.ended {job : Job} {attempt : Nat} {f : Failure JobError} {job' : Job}
    (h : (Worker.attempting job attempt (.done (.error f, job'))).Contained) : ∃ e, f = .error e := by
  obtain ⟨fleet, trace, hfollows⟩ := h
  obtain ⟨step, cause, -, rfl, -⟩ := Executor.contains_performWorkflow hfollows
  exact ⟨_, rfl⟩

end Worker

namespace Daemon

theorem Move.contained (h : Move s pool i w w' t) (hexecutor : pool.executor = .deployments)
    (hw : w.Contained) : w'.Contained := by
  have begun : ∀ job, (Executor.performWorkflow s.fleet job).Follows []
      (pool.executor.begin s.fleet job).1 := by
    intro job
    rw [hexecutor]
    exact .here _
  cases h with
  | reply reply engine =>
    obtain ⟨fleet, trace, hfollows⟩ := hw
    exact ⟨fleet, _, hfollows.concat reply⟩
  | step h =>
    cases h with
    | first _ => exact ⟨s.fleet, [], begun _⟩
    | again _ => exact ⟨s.fleet, [], begun _⟩
    | pause =>
      obtain ⟨fleet, trace, hfollows⟩ := hw
      exact ⟨fleet, _, hfollows.concat ()⟩
    | ask _ =>
      obtain ⟨fleet, trace, hfollows⟩ := hw
      exact ⟨fleet, _, hfollows.concat _⟩
    | wake _ => exact hw
    | crash =>
      obtain ⟨e, he⟩ := hw.ended
      cases he
    | _ => trivial

/-! ## What stays true -/

/-- A daemon whose workers run the workflows of jobs, and where nothing is out of order. -/
structure Sane (s : Daemon) : Prop where
  executor : s.pool.map Pool.executor = some .deployments
  contained : ∀ w ∈ s.workers, w.Contained
  sound : ∀ w ∈ s.workers, w.Sound
  lined : ∀ d, ∃ h, LinedUp d h s
  counted : s.Counted

theorem sane_of_unoccupied (hs : s.Unoccupied) (hcounted : s.Counted)
    (hexecutor : s.pool.map Pool.executor = some .deployments) : s.Sane where
  executor := hexecutor
  contained w hw := by
    rw [hs.workers w hw]
    trivial
  sound w hw := by
    rw [hs.workers w hw]
    trivial
  lined d := ⟨[], ((Run.start : Run (fun _ _ => True) s [] s).lined hs).2 d⟩
  counted := hcounted

/-- Each job that is accepted is counted in its scope. -/
theorem count_foldl_acquire (jobs : List Job) {f : InFlight} (hf : f.Positive) :
    (jobs.foldl (fun f job => f.acquire job.scope) f).Positive ∧
      ∀ d, (jobs.foldl (fun f job => f.acquire job.scope) f).count d
        = f.count d + tally (inScope d) jobs := by
  induction jobs generalizing f with
  | nil => exact ⟨hf, fun _ => rfl⟩
  | cons job jobs ih =>
    obtain ⟨hpositive, hcount⟩ := ih (hf.acquire job.scope)
    refine ⟨hpositive, fun d => ?_⟩
    rw [List.foldl_cons, hcount d, InFlight.count_acquire_job, tally_cons job jobs]
    omega

theorem Accepts.counted (h : Accepts s.queue t.queue) (hworkers : t.workers = s.workers)
    (hs : s.Counted) : t.Counted := by
  obtain ⟨jobs, -, hline, hcounts⟩ := h
  obtain ⟨hpositive, hcount⟩ := count_foldl_acquire jobs hs.positive
  refine ⟨fun w hw => hs.tame w (hworkers ▸ hw), fun d => ?_, hcounts ▸ hpositive⟩
  have hbefore := hs.counts d
  rw [hcounts, hcount d, hline, held, hworkers, tally_append]
  rw [held] at hbefore
  omega

theorem Beside.sane (h : Beside s t) (hs : s.Sane) : t.Sane where
  executor := h.executor.trans hs.executor
  contained w hw := hs.contained w (h.workers ▸ hw)
  sound w hw := hs.sound w (h.workers ▸ hw)
  lined d := by
    obtain ⟨history, hlined⟩ := hs.lined d
    refine ⟨history, ?_⟩
    unfold LinedUp Daemon.view at *
    rwa [h.workers, h.locks]
  counted := h.queue.counted h.workers hs.counted

theorem Move.workers (h : Move s pool i w w' t) (hpool : s.pool = some pool) :
    t.workers = s.workers.set i w' := by
  cases h with
  | step h => exact h.workers hpool
  | reply reply engine => simp [Daemon.workers, setWorker, hpool]

theorem Moves.workers (h : s.Moves i w w' t) : t.workers = s.workers.set i w' := by
  obtain ⟨pool, hpool, -, hmove⟩ := h
  exact hmove.workers hpool

theorem Moves.worker (h : s.Moves i w w' t) : t.workers[i]? = some w' := by
  have hw : s.workers[i]? = some w := h.choose_spec.2.1
  rw [h.workers, List.getElem?_set_self (List.getElem?_eq_some_iff.1 hw).1]

/-- Whoever is in another place is as before. -/
theorem Moves.forall_workers {P : Worker → Prop} (h : s.Moves i w w' t) (hall : ∀ v ∈ s.workers, P v)
    (hnew : P w') : ∀ v ∈ t.workers, P v := by
  intro v hv
  rw [h.workers] at hv
  rcases List.mem_or_eq_of_mem_set hv with hv | rfl
  · exact hall v hv
  · exact hnew

theorem Moves.sane (h : s.Moves i w w' t) (hs : s.Sane) : t.Sane := by
  have hset := h.workers
  have split := fun P : Worker → Prop => h.forall_workers (P := P)
  obtain ⟨pool, hpool, hw, hmove⟩ := h
  have hmem := List.mem_of_getElem? hw
  have hexecutor : pool.executor = .deployments := by
    have := hs.executor
    rw [hpool] at this
    exact Option.some.inj this
  have hcontained := split _ hs.contained (hmove.contained hexecutor (hs.contained w hmem))
  cases hmove with
  | step hstep =>
    obtain ⟨executor, ht, hkept⟩ := hstep.pool_eq hpool
    refine ⟨?_, hcontained, split _ hs.sound (hstep.sound (hs.sound w hmem)), fun d => ?_,
      hs.counted.step hpool hw hstep⟩
    · rw [ht, Option.map_some, hkept hexecutor]
    · obtain ⟨history, hlined⟩ := hs.lined d
      exact ⟨_, hlined.step (hs.sound w hmem) hpool hw hstep []⟩
  | @reply job attempt c next reply engine =>
    refine ⟨?_, hcontained, split _ hs.sound ((hs.sound _ hmem).2 reply () trivial), fun d => ?_, ?_⟩
    · have := hs.executor
      rw [hpool] at this
      simpa [setWorker, hpool] using this
    · obtain ⟨history, hlined⟩ := hs.lined d
      refine ⟨history, ?_⟩
      have hview := view_set (d := d) hw hset
      have hsame : (Worker.attempting job attempt (next reply)).view d = s.view d i :=
        (view_eq hw).symm
      rw [hsame, Function.update_eq_self] at hview
      unfold LinedUp at *
      rw [hview]
      exact hlined
    · refine ⟨split _ hs.counted.tame ((hs.counted.tame _ hmem).2 reply () trivial), fun d => ?_,
        hs.counted.positive⟩
      have hsame := tally_filterMap_set (p := inScope d) (f := Worker.held?) hw
        (.attempting job attempt (next reply))
      have hheld : (Worker.attempting job attempt (next reply)).held?
          = (Worker.attempting job attempt (.ask (.engine c) next)).held? := rfl
      rw [hheld, Nat.add_right_cancel_iff] at hsame
      rw [held, hset, hsame]
      exact hs.counted.counts d

end Daemon

end Orchestrator
