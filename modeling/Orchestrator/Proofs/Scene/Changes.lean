import Orchestrator.Proofs.Scene.Basic

/-!
# What a move can do

`Scene.change_of_step?` says what a move can do in a scene: it is the `Progress` of a submission, a
worker's step, a matter of the pool's `Control`, or nothing that concerns the queue and the pool. What
each of these keeps holds after every run (`Scene.run_induction`).
-/
namespace Orchestrator

open Daemon

/-- A submission comes to a stage. -/
inductive Progress (s : Scene) : Scene → Prop
  | refuse {job : Job} {e : JobError} :
    Progress s { s with calls := s.calls ++ [⟨job, .refused e⟩] }
  | come {job : Job} : Progress s { s with
      daemon := { s.daemon with queue := s.queue.join s.calls.length }
      calls := s.calls ++ [⟨job, .waiting⟩] }
  | offer {job : Job} : Progress s { s with
      daemon := { s.daemon with queue := s.queue.count job }
      calls := s.calls ++ [⟨job, .offering⟩] }
  | count {ticket : Ticket} {job : Job} (hcall : s.calls[ticket]? = some ⟨job, .waiting⟩)
    (hgranted : ticket ∈ s.queue.granted) :
    Progress s (s.proceed ticket job .counted (s.queue.count job))
  | turnAway {ticket : Ticket} {job : Job} {e : JobError}
    (hcall : s.calls[ticket]? = some ⟨job, .waiting⟩) :
    Progress s (s.proceed ticket job (.refused e) s.queue)
  | send {ticket : Ticket} {job : Job} (hcall : s.calls[ticket]? = some ⟨job, .counted⟩) :
    Progress s (s.accept ticket job (s.queue.send ticket job))
  | put {ticket : Ticket} {job : Job} (hcall : s.calls[ticket]? = some ⟨job, .offering⟩)
    (hslot : s.queue.hasSlot = true) :
    Progress s (s.accept ticket job { s.queue with line := s.queue.line ++ [job] })
  | fail {ticket : Ticket} {job : Job} {e : JobError}
    (hcall : s.calls[ticket]? = some ⟨job, .offering⟩) :
    Progress s (s.proceed ticket job (.refusing e) s.queue)
  | takeBack {ticket : Ticket} {job : Job} {e : JobError}
    (hcall : s.calls[ticket]? = some ⟨job, .refusing e⟩) :
    Progress s (s.proceed ticket job (.refused e) (s.queue.finish job))
  | abandon {ticket : Ticket} {job : Job} (hcall : s.calls[ticket]? = some ⟨job, .waiting⟩) :
    Progress s (s.proceed ticket job .abandoned (s.queue.leave ticket))

/-- The pool is started or stopped. -/
inductive Control (s : Scene) (pool : Pool) : Scene → Prop
  | start (h : pool.isStarted = false) : Control s pool { s with
      daemon := s.daemon.updatePool fun p => { p with isStarted := true }
      launch := .locking }
  | lock (h : s.launch = .locking) : Control s pool { s with launch := .spawning pool.concurrency }
  | spawn {left : Nat} (h : s.launch = .spawning (left + 1)) : Control s pool { s with
      daemon := s.daemon.updatePool Pool.spawn
      launch := .spawning left }
  | launched (h : s.launch = .spawning 0) : Control s pool { s with launch := .returned }
  | stop : Control s pool s.stop
  | drain {number : Nat} (h : s.stops[number]? = some .signalled)
    (hfree : ∀ left, s.launch ≠ .spawning left) : Control s pool { s with
      daemon := s.daemon.updatePool Pool.drained
      stops := s.stops.set number (.awaiting pool.handles pool.handles) }
  | join {number i : Nat} {took left : List Nat} {w : Worker}
    (h : s.stops[number]? = some (.awaiting took (i :: left))) (hw : s.daemon.workers[i]? = some w)
    (hended : w.hasEnded = true) :
    Control s pool { s with stops := s.stops.set number (.awaiting took left) }
  | joined {number : Nat} {took : List Nat} (h : s.stops[number]? = some (.awaiting took [])) :
    Control s pool { s with stops := s.stops.set number (.returned took) }
  | drop {number : Nat} : Control s pool { s with stops := s.stops.set number .dropped }

/-- What a move can do. -/
inductive Change (s : Scene) : Scene → Prop
  | progress {t : Scene} (h : Progress s t) : Change s t
  | worker {pool : Pool} {i : Nat} {w w' : Worker} {daemon : Daemon} (hpool : s.daemon.pool = some pool)
    (hw : s.daemon.workers[i]? = some w) (hstep : WorkerStep s.daemon pool i w w' daemon) :
    Change s (s.worked i w w' daemon)
  | control {pool : Pool} {t : Scene} (hpool : s.daemon.pool = some pool) (h : Control s pool t) :
    Change s t
  | look {reaching : List Nat} : Change s { s with reaching := reaching }
  | other (d : Daemon) : Change s { s with daemon := s.daemon.withRest d }

namespace Scene

variable {s t : Scene} {pool : Pool}

theorem progress_come (s : Scene) (job : Job) : Progress s (s.come job) := by
  unfold come Queue.enqueue
  cases job.validate with
  | error e => exact .refuse
  | ok _ =>
    by_cases hclosed : s.queue.isClosed
    · simp only [hclosed, if_true]
      exact .refuse
    · simp only [hclosed, Bool.false_eq_true, if_false]
      by_cases hgranted : s.calls.length ∈ (s.queue.join s.calls.length).granted
      · simp only [hgranted, if_true]
        exact .come
      · simp only [hgranted, if_false]
        exact .come

theorem progress_offer (s : Scene) (job : Job) : Progress s (s.offer job) := by
  unfold offer
  cases job.validate with
  | error e => exact .refuse
  | ok _ => exact .offer

theorem granted_of_standing {q : Queue} {ticket : Ticket} (h : q.standing ticket = .granted) :
    ticket ∈ q.granted := by
  unfold Queue.standing at h
  split at h
  · cases h
  · split at h
    · assumption
    · cases h

theorem progress_of_advance? {ticket : Ticket} (h : s.advance? ticket = some t) : Progress s t := by
  unfold advance? at h
  obtain ⟨⟨job, stage⟩, hcall, h⟩ := Option.bind_eq_some_iff.1 h
  cases stage with
  | waiting =>
    cases hstanding : s.queue.standing ticket with
    | waiting => simp [hstanding] at h
    | granted =>
      simp only [hstanding] at h
      obtain rfl := Option.some.inj h
      exact .count hcall (granted_of_standing hstanding)
    | refused e =>
      simp only [hstanding] at h
      obtain rfl := Option.some.inj h
      exact .turnAway hcall
  | counted =>
    obtain rfl := Option.some.inj h
    exact .send hcall
  | offering =>
    cases hsent : s.queue.trySend job with
    | ok queue =>
      simp only [hsent] at h
      obtain rfl := Option.some.inj h
      obtain ⟨-, hslot, rfl⟩ := Queue.trySend_ok hsent
      exact .put hcall hslot
    | error e =>
      simp only [hsent] at h
      obtain rfl := Option.some.inj h
      exact .fail hcall
  | refusing e =>
    obtain rfl := Option.some.inj h
    exact .takeBack hcall
  | accepted => cases h
  | refused e => cases h
  | abandoned => cases h

theorem progress_of_abandon? {ticket : Ticket} (h : s.abandon? ticket = some t) : Progress s t := by
  unfold abandon? at h
  obtain ⟨⟨job, stage⟩, hcall, h⟩ := Option.bind_eq_some_iff.1 h
  cases stage with
  | waiting =>
    obtain rfl := Option.some.inj h
    exact .abandon hcall
  | _ => cases h

/-- Whatever a worker does is a worker's step, also where it has looked before. -/
theorem change_of_work? {i : Nat} (h : s.work? i = some t) : Change s t := by
  unfold work? at h
  obtain ⟨w, hw, h⟩ := Option.bind_eq_some_iff.1 h
  obtain ⟨daemon, hstep, h⟩ := Option.bind_eq_some_iff.1 h
  obtain ⟨w', hw', h⟩ := Option.bind_eq_some_iff.1 h
  obtain rfl := Option.some.inj h
  obtain ⟨pool, hpool, -, hcases⟩ := workerStep_of_workers hw hstep hw'
  exact .worker hpool hw hcases

theorem pool_of_workers {d : Daemon} {i : Nat} {w : Worker} (hw : d.workers[i]? = some w) :
    ∃ pool, d.pool = some pool := by
  unfold Daemon.workers at hw
  cases hpool : d.pool with
  | none => simp [hpool] at hw
  | some pool => exact ⟨pool, rfl⟩

theorem change_of_reach? {i : Nat} (h : s.reach? i = some t) : Change s t := by
  unfold reach? at h
  obtain ⟨⟨job, queue⟩, htake, h⟩ := Option.bind_eq_some_iff.1 h
  dsimp only at h
  split at h
  · rename_i hw
    split at h
    · obtain rfl := Option.some.inj h
      obtain ⟨pool, hpool⟩ := pool_of_workers hw
      exact .worker hpool hw (.take htake)
    · cases h
  · cases h

theorem change_of_quit? {i : Nat} (h : s.quit? i = some t) : Change s t := by
  unfold quit? at h
  split at h
  · rename_i hw
    obtain rfl := Option.some.inj h
    obtain ⟨pool, hpool⟩ := pool_of_workers hw
    exact .worker hpool hw .stop
  · cases h

theorem change_of_look? {i : Nat} (h : s.look? i = some t) : Change s t := by
  unfold look? at h
  obtain ⟨pool, -, h⟩ := Option.bind_eq_some_iff.1 h
  split at h
  · split at h
    · cases h
    · obtain rfl := Option.some.inj h
      exact .look
  · cases h

theorem change_of_start? (h : s.start? = some t) : Change s t := by
  unfold start? at h
  obtain ⟨pool, hpool, h⟩ := Option.bind_eq_some_iff.1 h
  split at h
  · obtain rfl := Option.some.inj h
    exact .look
  · rename_i hstarted
    obtain rfl := Option.some.inj h
    exact .control hpool (.start (Bool.eq_false_iff.2 hstarted))

theorem change_of_lock? (h : s.lock? = some t) : Change s t := by
  unfold lock? at h
  obtain ⟨pool, hpool, h⟩ := Option.bind_eq_some_iff.1 h
  split at h
  · rename_i hlaunch
    obtain rfl := Option.some.inj h
    exact .control hpool (.lock hlaunch)
  · cases h

theorem change_of_drain? {number : Nat} (h : s.drain? number = some t) : Change s t := by
  unfold drain? at h
  obtain ⟨pool, hpool, h⟩ := Option.bind_eq_some_iff.1 h
  split at h
  · cases h
  · rename_i hstop hfree
    obtain rfl := Option.some.inj h
    exact .control hpool (.drain hstop fun left hlaunch => hfree left hlaunch)
  · cases h

theorem change_of_spawn? (hpool : s.daemon.pool = some pool) (h : s.spawn? = some t) : Change s t := by
  unfold spawn? at h
  split at h
  · rename_i hlaunch
    obtain rfl := Option.some.inj h
    exact .control hpool (.spawn hlaunch)
  · rename_i hlaunch
    obtain rfl := Option.some.inj h
    exact .control hpool (.launched hlaunch)
  · cases h

theorem change_of_join? {number : Nat} (hpool : s.daemon.pool = some pool)
    (h : s.join? number = some t) : Change s t := by
  unfold join? at h
  obtain ⟨stop, hstop, h⟩ := Option.bind_eq_some_iff.1 h
  split at h
  · split at h
    · rename_i hw
      split at h
      · rename_i hended
        obtain rfl := Option.some.inj h
        exact .control hpool (.join hstop hw hended)
      · cases h
    · cases h
  · obtain rfl := Option.some.inj h
    exact .control hpool (.joined hstop)
  · cases h

theorem change_of_drop? {number : Nat} (hpool : s.daemon.pool = some pool)
    (h : s.drop? number = some t) : Change s t := by
  unfold drop? at h
  obtain ⟨stop, hstop, h⟩ := Option.bind_eq_some_iff.1 h
  split at h
  · obtain rfl := Option.some.inj h
    exact .control hpool .drop
  · obtain rfl := Option.some.inj h
    exact .control hpool .drop
  · cases h

/-- What a move can do. -/
theorem change_of_step? {m : Move} (hpool : s.daemon.pool = some pool) (h : s.step? m = some t) :
    Change s t := by
  cases m with
  | come job =>
    obtain rfl := Option.some.inj h
    exact .progress (progress_come s job)
  | offer job =>
    obtain rfl := Option.some.inj h
    exact .progress (progress_offer s job)
  | advance ticket => exact .progress (progress_of_advance? h)
  | abandon ticket => exact .progress (progress_of_abandon? h)
  | work i => exact change_of_work? h
  | look i => exact change_of_look? h
  | reach i => exact change_of_reach? h
  | quit i => exact change_of_quit? h
  | start => exact change_of_start? h
  | lock => exact change_of_lock? h
  | spawn => exact change_of_spawn? hpool h
  | stop =>
    obtain rfl := Option.some.inj h
    exact .control hpool .stop
  | drain number => exact change_of_drain? h
  | join number => exact change_of_join? hpool h
  | drop number => exact change_of_drop? hpool h
  | other d =>
    obtain rfl := Option.some.inj h
    exact .other d

end Scene

variable {s t : Scene} {pool : Pool}

/-- What has happened to workers and to jobs in the hands of workers, and how the pool stands. -/
structure SameWork (s t : Scene) : Prop where
  pool : t.daemon.pool = s.daemon.pool
  finished : t.finished = s.finished
  taken : t.taken = s.taken
  launch : t.launch = s.launch
  stops : t.stops = s.stops

/-- What has happened to submissions and jobs. -/
structure SameJobs (s t : Scene) : Prop where
  queue : t.queue = s.queue
  finished : t.finished = s.finished
  calls : t.calls = s.calls
  accepted : t.accepted = s.accepted
  taken : t.taken = s.taken

theorem SameWork.workers (h : SameWork s t) : t.daemon.workers = s.daemon.workers := by
  rw [Daemon.workers, h.pool, Daemon.workers]

theorem Progress.sameWork (h : Progress s t) : SameWork s t := by
  cases h <;> exact ⟨rfl, rfl, rfl, rfl, rfl⟩

theorem Control.sameJobs (h : Control s pool t) : SameJobs s t := by
  cases h <;> exact ⟨rfl, rfl, rfl, rfl, rfl⟩

/-- Starting and stopping has at most one more worker appear. -/
theorem Control.pool_cases (hpool : s.daemon.pool = some pool) (h : Control s pool t) :
    ∃ pool', t.daemon.pool = some pool' ∧ pool'.executor = pool.executor ∧
      (pool'.workers = pool.workers ∨ pool'.workers = pool.workers ++ [.idle]) := by
  cases h with
  | start _ => exact ⟨_, pool_updatePool hpool _, rfl, .inl rfl⟩
  | spawn _ => exact ⟨_, pool_updatePool hpool _, rfl, .inr rfl⟩
  | stop => exact ⟨_, pool_updatePool hpool _, rfl, .inl rfl⟩
  | drain _ _ => exact ⟨_, pool_updatePool hpool _, rfl, .inl rfl⟩
  | _ => exact ⟨pool, hpool, rfl, .inl rfl⟩

/-- Starting and stopping leaves the workers as they are, or one more appears. -/
theorem Control.workers_cases (hpool : s.daemon.pool = some pool) (h : Control s pool t) :
    t.daemon.workers = s.daemon.workers ∨ t.daemon.workers = s.daemon.workers ++ [.idle] := by
  obtain ⟨pool', hpool', -, hworkers⟩ := h.pool_cases hpool
  simpa only [Daemon.workers, hpool, hpool'] using hworkers

/-- There stays a pool. -/
theorem Change.hasPool (h : Change s t) (hs : s.HasPool) : t.HasPool := by
  obtain ⟨pool, hpool⟩ := hs
  cases h with
  | progress h => exact ⟨pool, h.sameWork.pool.trans hpool⟩
  | worker hpool _ hstep =>
    obtain ⟨_, ht, -⟩ := hstep.pool_cases hpool
    exact ⟨_, ht⟩
  | control hpool h =>
    obtain ⟨pool', ht, -⟩ := h.pool_cases hpool
    exact ⟨pool', ht⟩
  | look => exact ⟨pool, hpool⟩
  | other d => exact ⟨pool, hpool⟩

/-- What holds of a worker that begins, and is kept by every step of a worker, stays true of all
workers. -/
theorem Change.forall_workers {P : Worker → Prop} (h : Change s t) (hidle : P .idle)
    (hstep : ∀ {pool i w w' d}, s.daemon.pool = some pool → WorkerStep s.daemon pool i w w' d →
      P w → P w')
    (hs : ∀ w ∈ s.daemon.workers, P w) : ∀ w ∈ t.daemon.workers, P w := by
  intro w hmem
  cases h with
  | progress h => exact hs w (h.sameWork.workers ▸ hmem)
  | worker hpool hw h =>
    rw [show (s.worked ..).daemon.workers = _ from h.workers hpool] at hmem
    rcases List.mem_or_eq_of_mem_set hmem with hmem | rfl
    · exact hs w hmem
    · exact hstep hpool h (hs _ (List.mem_of_getElem? hw))
  | control hpool h =>
    rcases h.workers_cases hpool with hworkers | hworkers
    · exact hs w (hworkers ▸ hmem)
    · rw [hworkers, List.mem_append, List.mem_singleton] at hmem
      rcases hmem with hmem | rfl
      · exact hs w hmem
      · exact hidle
  | look => exact hs w hmem
  | other d => exact hs w hmem

namespace Scene

/-- What holds at first and is kept by every change holds after a run. -/
theorem run_induction {P : Scene → Prop} (hstep : ∀ s t, P s → Change s t → P t) (hpool : s.HasPool)
    (hs : P s) (moves : List Move) : P (s.run moves) := by
  suffices ∀ moves s, s.HasPool ∧ P s → P (run s moves) from this moves s ⟨hpool, hs⟩
  intro moves
  induction moves with
  | nil => exact fun s hs => hs.2
  | cons m rest ih =>
    intro s hs
    refine ih _ ?_
    change HasPool ((s.step? m).getD s) ∧ P ((s.step? m).getD s)
    cases hm : s.step? m with
    | none => exact hs
    | some t =>
      obtain ⟨pool, hpool⟩ := hs.1
      have hchange := change_of_step? hpool hm
      exact ⟨hchange.hasPool hs.1, hstep s t hs.2 hchange⟩

theorem hasPool_opening (d : Daemon) (capacity : Nat) (p : Pool) : (opening d capacity p).HasPool :=
  ⟨_, rfl⟩

end Scene

end Orchestrator
