import Orchestrator.Proofs.Scene.Ledger

/-!
# Stopping the workers

A call that stops the workers tells them to end, takes the handles it finds, and waits for the workers
behind these. The handles are there once the workers are started, all of them, and go to the first who
asks (`Staffed`). So once a call has returned that took handles, every worker has ended, and none takes a
job any more: `stopped_for_good`. A call that found no handles promises nothing: it may have come before
the start, and its word is lost, or another call may have taken the handles and still wait, or have been
dropped (`stop_may_not_stop`).
-/
namespace Orchestrator

open Daemon

/-- The workers that the call has still to start. -/
def Launch.left (concurrency : Nat) : Launch → Nat
  | .never | .locking => concurrency
  | .spawning left => left
  | .returned => 0

/-- The handles that a call took, and those of workers that it has still to wait for. -/
def Stop.handles? : Stop → Option (List Nat × List Nat)
  | .awaiting took left => some (took, left)
  | .returned took => some (took, [])
  | .signalled | .dropped => none

theorem Daemon.WorkerStep.hasEnded_eq {s t : Daemon} {pool : Pool} {i : Nat} {w w' : Worker}
    (h : WorkerStep s pool i w w' t) : w.hasEnded = false := by
  cases h <;> rfl

namespace Scene

variable {s t : Scene} {pool : Pool}

/-- The workers that were started, and those who wait for their end. -/
structure Staffed (s : Scene) (pool : Pool) : Prop where
  pool_eq : s.daemon.pool = some pool
  concurrency : 0 < pool.concurrency
  started : pool.isStarted = true ↔ s.launch ≠ .never
  staff : pool.workers.length + s.launch.left pool.concurrency = pool.concurrency
  unclaimed : s.stops = [] → pool.isAwaited = false
  /-- Who took handles took all, and every worker has ended but those that he still waits for. -/
  waits : ∀ stop ∈ s.stops, ∀ took left, stop.handles? = some (took, left) → took ≠ [] →
    s.launch = .returned ∧ ∀ i w, pool.workers[i]? = some w → i ∈ left ∨ w.hasEnded = true

theorem staffed_opening (d : Daemon) (capacity : Nat) (p : Pool) :
    ∃ pool, (opening d capacity p).Staffed pool := by
  refine ⟨_, rfl, Nat.lt_of_lt_of_le Nat.zero_lt_one (Nat.le_max_right ..), ?_, ?_, fun _ => rfl,
    fun _ h => nomatch h⟩
  · simp [opening, Pool.new]
  · simp [opening, Pool.new, Launch.left]

/-- Whoever comes for the handles when there are any takes all of them, and the start has returned. -/
theorem Staffed.handles_eq (hs : s.Staffed pool) (hfree : ∀ left, s.launch ≠ .spawning left)
    (h : pool.handles ≠ []) :
    s.launch = .returned ∧ pool.handles = List.range pool.workers.length := by
  have staff := hs.staff
  have hall : pool.handles = List.range pool.workers.length := by
    unfold Pool.handles at h ⊢
    split at h
    · exact absurd rfl h
    · rename_i hawaited
      exact if_neg hawaited
  have hsome : pool.workers.length ≠ 0 := fun hnone => h (by rw [hall, hnone]; rfl)
  refine ⟨?_, hall⟩
  cases hlaunch : s.launch with
  | returned => rfl
  | spawning left => exact absurd hlaunch (hfree left)
  | never | locking =>
    rw [hlaunch, Launch.left] at staff
    omega

/-- A call that stops the workers goes one step on. -/
theorem Staffed.set (hs : s.Staffed pool) {number : Nat} {stop : Stop}
    (hstop : ∀ took left, stop.handles? = some (took, left) → took ≠ [] →
      s.launch = .returned ∧ ∀ i w, pool.workers[i]? = some w → i ∈ left ∨ w.hasEnded = true) :
    Staffed { s with stops := s.stops.set number stop } pool where
  pool_eq := hs.pool_eq
  concurrency := hs.concurrency
  started := hs.started
  staff := hs.staff
  unclaimed h := hs.unclaimed ((List.set_eq_nil_iff ..).1 h)
  waits stop' hmem := by
    rcases List.mem_or_eq_of_mem_set hmem with hmem | rfl
    · exact hs.waits stop' hmem
    · exact hstop

/-- A worker that takes a step has not ended, so whoever took its handle waits for it. -/
theorem Staffed.worker {i : Nat} {w w' : Worker} {d : Daemon} (hs : s.Staffed pool)
    (hw : pool.workers[i]? = some w) (hstep : WorkerStep s.daemon pool i w w' d) :
    ∃ pool', Staffed (s.worked i w w' d) pool' := by
  obtain ⟨executor, hd, -⟩ := hstep.pool_cases hs.pool_eq
  refine ⟨_, hd, hs.concurrency, hs.started, ?_, hs.unclaimed, ?_⟩
  · simpa [worked] using hs.staff
  · intro stop hstop took left hhandles htook
    obtain ⟨hlaunch, hended⟩ := hs.waits stop hstop took left hhandles htook
    refine ⟨hlaunch, fun j v hv => ?_⟩
    rw [List.getElem?_set] at hv
    split at hv
    · rename_i hij
      subst hij
      have := (hended i w hw).resolve_right (by simp [hstep.hasEnded_eq])
      exact .inl this
    · exact hended j v hv

/-- No worker appears once somebody has taken handles. -/
theorem Staffed.control (hs : s.Staffed pool) (h : Control s pool t) : ∃ pool', t.Staffed pool' := by
  have updated := pool_updatePool hs.pool_eq
  -- as long as the start has not returned, nobody has taken handles
  have nobody : s.launch ≠ .returned → ∀ {launch : Launch} {pool' : Pool}, ∀ stop ∈ s.stops,
      ∀ took left, stop.handles? = some (took, left) → took ≠ [] → launch = .returned ∧
        ∀ i w, pool'.workers[i]? = some w → i ∈ left ∨ w.hasEnded = true := by
    intro hlaunch _ _ stop hstop took left hhandles htook
    exact absurd (hs.waits stop hstop took left hhandles htook).1 hlaunch
  cases h with
  | start hstarted =>
    have hlaunch : s.launch = .never := by
      by_contra hlaunch
      rw [hs.started.2 hlaunch] at hstarted
      cases hstarted
    refine ⟨_, updated _, hs.concurrency, by simp, ?_, hs.unclaimed, nobody (by simp [hlaunch])⟩
    simpa [hlaunch, Launch.left] using hs.staff
  | lock hlaunch =>
    refine ⟨_, hs.pool_eq, hs.concurrency, ?_, ?_, hs.unclaimed, nobody (by simp [hlaunch])⟩
    · simpa [hlaunch] using hs.started
    · simpa [hlaunch, Launch.left] using hs.staff
  | spawn hlaunch =>
    refine ⟨_, updated _, hs.concurrency, ?_, ?_, hs.unclaimed, nobody (by simp [hlaunch])⟩
    · simpa [hlaunch, Pool.spawn] using hs.started
    · have staff := hs.staff
      simp only [hlaunch, Launch.left] at staff
      simp only [Pool.spawn, Launch.left, List.length_append, List.length_cons, List.length_nil]
      omega
  | launched hlaunch =>
    refine ⟨_, hs.pool_eq, hs.concurrency, ?_, ?_, hs.unclaimed, nobody (by simp [hlaunch])⟩
    · simpa [hlaunch] using hs.started
    · simpa [hlaunch, Launch.left] using hs.staff
  | stop =>
    refine ⟨_, updated _, hs.concurrency, hs.started, hs.staff, ?_, ?_⟩
    · simp [stop]
    · intro stop hstop
      rcases List.mem_append.1 hstop with hstop | hstop
      · exact hs.waits stop hstop
      · obtain rfl := List.mem_singleton.1 hstop
        simp [Stop.handles?]
  | drain hstop hfree =>
    refine ⟨pool.drained, updated _, hs.concurrency, hs.started, hs.staff, ?_, ?_⟩
    · intro hnil
      rw [(List.set_eq_nil_iff ..).1 hnil] at hstop
      cases hstop
    · refine (hs.set fun took left hhandles htook => ?_).waits
      obtain ⟨rfl, rfl⟩ := Prod.mk.inj (Option.some.inj hhandles)
      obtain ⟨hlaunch, hall⟩ := hs.handles_eq hfree htook
      refine ⟨hlaunch, fun i w hw => .inl ?_⟩
      rw [hall]
      exact List.mem_range.2 (List.getElem?_eq_some_iff.1 hw).1
  | join h hw hended =>
    refine ⟨pool, hs.set fun took left hhandles htook => ?_⟩
    obtain ⟨rfl, rfl⟩ := Prod.mk.inj (Option.some.inj hhandles)
    obtain ⟨hlaunch, hleft⟩ := hs.waits _ (List.mem_of_getElem? h) _ _ rfl htook
    refine ⟨hlaunch, fun j v hv => ?_⟩
    rw [workers, hs.pool_eq] at hw
    rcases hleft j v hv with hmem | hv'
    · rcases List.mem_cons.1 hmem with rfl | hmem
      · obtain rfl : v = _ := Option.some.inj (hv.symm.trans hw)
        exact .inr hended
      · exact .inl hmem
    · exact .inr hv'
  | joined h =>
    exact ⟨pool, hs.set fun took left hhandles => hs.waits _ (List.mem_of_getElem? h) took left hhandles⟩
  | drop => exact ⟨pool, hs.set (by simp [Stop.handles?])⟩

theorem Staffed.change (hs : s.Staffed pool) (h : Change s t) : ∃ pool', t.Staffed pool' := by
  cases h with
  | progress h =>
    have work := h.sameWork
    exact ⟨pool, work.pool.trans hs.pool_eq, hs.concurrency, work.launch ▸ hs.started,
      work.launch ▸ hs.staff, work.stops ▸ hs.unclaimed, work.launch ▸ work.stops ▸ hs.waits⟩
  | worker hpool hw hstep =>
    obtain rfl := Option.some.inj (hpool.symm.trans hs.pool_eq)
    rw [workers, hpool] at hw
    exact hs.worker hw hstep
  | control hpool h =>
    obtain rfl := Option.some.inj (hpool.symm.trans hs.pool_eq)
    exact hs.control h
  | look =>
    exact ⟨pool, hs.pool_eq, hs.concurrency, hs.started, hs.staff, hs.unclaimed, hs.waits⟩
  | other d =>
    exact ⟨pool, hs.pool_eq, hs.concurrency, hs.started, hs.staff, hs.unclaimed, hs.waits⟩

theorem staffed_run (d : Daemon) (capacity : Nat) (p : Pool) (moves : List Move) :
    ∃ pool, ((opening d capacity p).run moves).Staffed pool :=
  run_induction (P := fun s => ∃ pool, s.Staffed pool) (fun _ _ ⟨_, hs⟩ => hs.change)
    (hasPool_opening ..) (staffed_opening ..) moves

/-! ## For good -/

/-- The workers were started, and all of them have ended. -/
structure Settled (s : Scene) : Prop where
  staffed : ∃ pool, s.Staffed pool
  launch : s.launch = .returned
  ended : ∀ w ∈ s.daemon.workers, w.hasEnded = true

/-- Once all workers have ended, none appears. -/
theorem Settled.control (hs : s.Settled) (hpool : s.daemon.pool = some pool) (h : Control s pool t) :
    t.launch = .returned ∧ t.daemon.workers = s.daemon.workers := by
  obtain ⟨pool', staffed⟩ := hs.staffed
  obtain rfl := Option.some.inj (hpool.symm.trans staffed.pool_eq)
  have launch := hs.launch
  have updated : ∀ f : Pool → Pool, (f pool).workers = pool.workers →
      (s.daemon.updatePool f).workers = s.daemon.workers := fun f hf => by
    rw [Daemon.workers, pool_updatePool hpool, Daemon.workers, hpool]
    exact hf
  cases h with
  | start hstarted =>
    rw [staffed.started.2 (by simp [launch])] at hstarted
    cases hstarted
  | lock hlaunch => simp [launch] at hlaunch
  | spawn hlaunch => simp [launch] at hlaunch
  | launched hlaunch => simp [launch] at hlaunch
  | stop => exact ⟨launch, updated _ rfl⟩
  | drain _ _ => exact ⟨launch, updated _ rfl⟩
  | _ => exact ⟨launch, rfl⟩

/-- Once all workers have ended, none takes a job. -/
theorem Settled.change (hs : s.Settled) (h : Change s t) : t.Settled ∧ t.taken = s.taken := by
  obtain ⟨pool, staffed⟩ := hs.staffed
  have staffed' := staffed.change h
  cases h with
  | progress h =>
    have work := h.sameWork
    exact ⟨⟨staffed', work.launch.trans hs.launch, work.workers ▸ hs.ended⟩, work.taken⟩
  | worker hpool hw hstep =>
    have hended := hs.ended _ (List.mem_of_getElem? hw)
    rw [hstep.hasEnded_eq] at hended
    cases hended
  | control hpool h =>
    obtain ⟨launch, hworkers⟩ := hs.control hpool h
    exact ⟨⟨staffed', launch, hworkers ▸ hs.ended⟩, h.sameJobs.taken⟩
  | look => exact ⟨⟨staffed', hs.launch, hs.ended⟩, rfl⟩
  | other d => exact ⟨⟨staffed', hs.launch, hs.ended⟩, rfl⟩

theorem Settled.run (hs : s.Settled) (moves : List Move) :
    (s.run moves).Settled ∧ (s.run moves).taken = s.taken := by
  obtain ⟨pool, staffed⟩ := hs.staffed
  refine run_induction (P := fun t => t.Settled ∧ t.taken = s.taken) (fun t u ht h => ?_)
    ⟨pool, staffed.pool_eq⟩ ⟨hs, rfl⟩ moves
  obtain ⟨settled, taken⟩ := ht.1.change h
  exact ⟨settled, taken.trans ht.2⟩

theorem Settled.running (hs : s.Settled) : s.running = [] :=
  List.filterMap_eq_nil_iff.2 fun w hw => by
    have := hs.ended w hw
    cases w with
    | stopped | crashed _ => rfl
    | _ => cases this

/-- Who took handles and has returned has seen every worker end. -/
theorem Staffed.settled (hs : s.Staffed pool) {took : List Nat} (h : .returned took ∈ s.stops)
    (htook : took ≠ []) : s.Settled := by
  obtain ⟨launch, hended⟩ := hs.waits _ h took [] rfl htook
  refine ⟨⟨pool, hs⟩, launch, fun w hw => ?_⟩
  rw [workers, hs.pool_eq] at hw
  obtain ⟨i, hi⟩ := List.mem_iff_getElem?.1 hw
  exact (hended i w hi).resolve_left List.not_mem_nil

/-- Once a call has returned that took handles, no worker is at a job, and none ever takes another. -/
theorem stopped_for_good (d : Daemon) (capacity : Nat) (p : Pool) (moves later : List Move)
    (took : List Nat) (h : .returned took ∈ ((opening d capacity p).run moves).stops)
    (htook : took ≠ []) :
    ((opening d capacity p).run (moves ++ later)).running = [] ∧
      ((opening d capacity p).run (moves ++ later)).taken
        = ((opening d capacity p).run moves).taken := by
  obtain ⟨pool, staffed⟩ := staffed_run d capacity p moves
  obtain ⟨settled, taken⟩ := (staffed.settled h htook).run later
  rw [run_append]
  exact ⟨settled.running, taken⟩

/-- A pool of one worker, and nothing in the queue. -/
def lone : Scene := opening {} 1 (.new 1)

/-- The worker is started. -/
def launching : List Move := [.start, .lock, .spawn, .spawn]

/-- A job is queued as the first one, and the worker takes it. -/
def working : List Move :=
  [.offer (.create ⟨1⟩ .epoch (.new "api" "nginx") 1), .advance 0, .advance 0, .work 0]

/-- The worker is waited for, and ends. -/
def dismissing : List Move := [.stop, .drain 0, .work 0, .join 0, .join 0]

theorem stopped_for_good_lone :
    Stop.returned [0] ∈ (lone.run (launching ++ dismissing)).stops ∧
      (lone.run (launching ++ dismissing ++ working)).running = [] := by
  have hreturned : Stop.returned [0] ∈ (lone.run (launching ++ dismissing)).stops := by decide +kernel
  exact ⟨hreturned, (stopped_for_good {} 1 (.new 1) _ working [0] hreturned (by decide)).1⟩

/-- Once a call has returned that stops the workers, no worker is at a job, and none takes another. -/
def StopsForGood (s : Scene) (moves later : List Move) : Prop :=
  (s.run moves).HasStopped →
    (s.run moves).running = [] ∧ (s.run (moves ++ later)).taken = (s.run moves).taken

/-- A call that finds no handles returns at once: before the start its word is lost, and the workers
started later take jobs; and behind another call, which may still wait or have been dropped, it does
not wait for the worker that is at a job. -/
theorem stop_may_not_stop :
    ¬ lone.StopsForGood [.stop, .drain 0, .join 0] (launching ++ working) ∧
    ¬ lone.StopsForGood (launching ++ working ++ [.stop, .drain 0, .stop, .drain 1, .join 1]) [] ∧
    ¬ lone.StopsForGood (launching ++ working ++ [.stop, .drain 0, .drop 0, .stop, .drain 1, .join 1])
      [] := by
  have hasStopped : ∀ moves, Stop.returned [] ∈ (lone.run moves).stops → (lone.run moves).HasStopped :=
    fun _ h => ⟨[], h⟩
  refine ⟨fun h => ?_, fun h => ?_, fun h => ?_⟩
  · have hkept := congrArg List.length (h (hasStopped _ (by decide +kernel))).2
    revert hkept
    decide +kernel
  · have hnone := congrArg List.length (h (hasStopped _ (by decide +kernel))).1
    revert hnone
    decide +kernel
  · have hnone := congrArg List.length (h (hasStopped _ (by decide +kernel))).1
    revert hnone
    decide +kernel

/-! ## A single call -/

/-- Nobody has taken the handles. -/
def Unclaimed (s : Scene) : Prop := ∀ pool, s.daemon.pool = some pool → pool.isAwaited = false

/-- The start has returned, and if there was only one call that stops the workers, then it came after
that, and finds the handles. -/
structure Unrivalled (s : Scene) : Prop where
  launch : s.launch = .returned
  sole : s.stops.length ≤ 1 → ∀ stop ∈ s.stops, (stop = .signalled → s.Unclaimed) ∧
    ∀ took left, stop.handles? = some (took, left) → took ≠ []

/-- A single call finds the handles of all workers. -/
theorem Unrivalled.handles_ne (hs : s.Unrivalled) (staffed : s.Staffed pool)
    (hlength : s.stops.length ≤ 1) (h : .signalled ∈ s.stops) : pool.handles ≠ [] := by
  have staff := staffed.staff
  have concurrency := staffed.concurrency
  rw [hs.launch, Launch.left] at staff
  rw [Pool.handles, (hs.sole hlength _ h).1 rfl pool staffed.pool_eq]
  intro hnone
  have hlength := congrArg List.length hnone
  simp only [Bool.false_eq_true, if_false, List.length_range, List.length_nil] at hlength
  omega

/-- The single call goes on with the handles it took. -/
theorem Unrivalled.set (hs : s.Unrivalled) {number : Nat} {stop : Stop}
    (hne : stop ≠ .signalled) (hhandles : s.stops.length ≤ 1 → ∀ took left,
      stop.handles? = some (took, left) → took ≠ []) :
    Unrivalled { s with stops := s.stops.set number stop } := by
  refine ⟨hs.launch, fun hlength stop' hmem => ?_⟩
  rw [List.length_set] at hlength
  rcases List.mem_or_eq_of_mem_set hmem with hmem | rfl
  · exact hs.sole hlength _ hmem
  · exact ⟨fun h => absurd h hne, hhandles hlength⟩

theorem Unrivalled.control (hs : s.Unrivalled) (staffed : s.Staffed pool) (h : Control s pool t) :
    t.Unrivalled := by
  have launch := hs.launch
  cases h with
  | start hstarted =>
    rw [staffed.started.2 (by simp [launch])] at hstarted
    cases hstarted
  | lock hlaunch => simp [launch] at hlaunch
  | spawn hlaunch => simp [launch] at hlaunch
  | launched hlaunch => simp [launch] at hlaunch
  | stop =>
    refine ⟨launch, fun hlength stop hstop => ?_⟩
    have hnone : s.stops = [] := List.length_eq_zero_iff.1 (by simpa [Scene.stop] using hlength)
    simp only [Scene.stop, hnone, List.nil_append, List.mem_singleton] at hstop
    subst hstop
    refine ⟨fun _ pool' hpool' => ?_, by simp [Stop.handles?]⟩
    obtain rfl := Option.some.inj ((pool_updatePool staffed.pool_eq _).symm.trans hpool')
    exact staffed.unclaimed hnone
  | @drain number hstop hfree =>
    refine ⟨launch, fun hlength stop hmem => ?_⟩
    rw [List.length_set] at hlength
    obtain ⟨hnumber, -⟩ := List.getElem?_eq_some_iff.1 hstop
    obtain ⟨first, hfirst⟩ := List.length_eq_one_iff.1 (by omega : s.stops.length = 1)
    obtain rfl : number = 0 := by omega
    obtain rfl : stop = .awaiting pool.handles pool.handles := by simpa [hfirst] using hmem
    refine ⟨by simp, fun took left h => ?_⟩
    obtain ⟨rfl, -⟩ := Prod.mk.inj (Option.some.inj h)
    exact hs.handles_ne staffed hlength (List.mem_of_getElem? hstop)
  | join h _ _ =>
    refine hs.set (by simp) fun hlength took left hhandles => ?_
    obtain ⟨rfl, -⟩ := Prod.mk.inj (Option.some.inj hhandles)
    exact (hs.sole hlength _ (List.mem_of_getElem? h)).2 _ _ rfl
  | joined h =>
    refine hs.set (by simp) fun hlength took left hhandles => ?_
    obtain ⟨rfl, -⟩ := Prod.mk.inj (Option.some.inj hhandles)
    exact (hs.sole hlength _ (List.mem_of_getElem? h)).2 _ _ rfl
  | drop => exact hs.set (by simp) (by simp [Stop.handles?])

theorem Unrivalled.change (hs : s.Unrivalled) (staffed : s.Staffed pool) (h : Change s t) :
    t.Unrivalled := by
  cases h with
  | progress h =>
    have work := h.sameWork
    refine ⟨work.launch.trans hs.launch, ?_⟩
    simpa only [work.stops, Unclaimed, work.pool] using hs.sole
  | worker hpool hw hstep =>
    obtain ⟨executor, hd, -⟩ := hstep.pool_cases hpool
    refine ⟨hs.launch, fun hlength stop hstop => ?_⟩
    obtain ⟨hunclaimed, htook⟩ := hs.sole hlength stop hstop
    refine ⟨fun h pool' hpool' => ?_, htook⟩
    have hawaited := hunclaimed h _ hpool
    obtain rfl := Option.some.inj (hd.symm.trans hpool')
    exact hawaited
  | control hpool h =>
    obtain rfl := Option.some.inj (hpool.symm.trans staffed.pool_eq)
    exact hs.control staffed h
  | look => exact ⟨hs.launch, hs.sole⟩
  | other d => exact ⟨hs.launch, hs.sole⟩

/-- When a single call that came after the start has returned, all workers have ended. -/
theorem settled_of_single (d : Daemon) (capacity : Nat) (p : Pool) (moves later : List Move)
    (hlaunch : ((opening d capacity p).run moves).launch = .returned)
    (hnone : ((opening d capacity p).run moves).stops = []) {took : List Nat}
    (hstops : ((opening d capacity p).run (moves ++ later)).stops = [.returned took]) :
    ((opening d capacity p).run (moves ++ later)).Settled := by
  obtain ⟨pool, staffed⟩ := staffed_run d capacity p moves
  have unrivalled : Unrivalled ((opening d capacity p).run moves) :=
    ⟨hlaunch, fun _ stop hstop => by rw [hnone] at hstop; cases hstop⟩
  rw [run_append] at hstops ⊢
  obtain ⟨⟨pool', staffed'⟩, unrivalled'⟩ := run_induction
    (P := fun s => (∃ pool, s.Staffed pool) ∧ s.Unrivalled)
    (fun _ _ ⟨⟨_, staffed⟩, hs⟩ h => ⟨staffed.change h, hs.change staffed h⟩)
    ⟨pool, staffed.pool_eq⟩ ⟨⟨pool, staffed⟩, unrivalled⟩ later
  have hmem := hstops ▸ List.mem_cons_self (a := Stop.returned took) (l := [])
  exact staffed'.settled hmem ((unrivalled'.sole (by simp [hstops]) _ hmem).2 took [] rfl)

end Scene

end Orchestrator
