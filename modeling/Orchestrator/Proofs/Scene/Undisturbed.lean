import Orchestrator.Proofs.Daemon.Slots
import Orchestrator.Proofs.Scene.Drift

/-!
# Calls that nobody disturbs

Whoever makes all moves of a call without anybody acting between them does what the daemon does in one
operation: a producer that comes (`undisturbed_come`), goes on (`undisturbed_advance`), goes away
(`undisturbed_abandon`) or does not wait (`undisturbed_offer`), a worker that takes a job
(`undisturbed_reach`), and whoever starts the workers (`undisturbed_start`) or stops them
(`undisturbed_stop`); and a pass for drift is served as the daemon serves it (`Pass.undisturbed_ask`,
`Pass.undisturbed_put`).
-/
namespace Orchestrator

namespace Queue

variable {q q' : Queue} {ticket : Ticket} {job : Job}

/-- An offer that finds a slot puts a counted job. -/
theorem offer_of_trySend_ok (hvalid : job.validate = .ok ())
    (h : (q.count job).trySend job = .ok q') : q.offer job = (.ok (), q') := by
  obtain ⟨hclosed, hslot, rfl⟩ := trySend_ok h
  have hclosed : q.isClosed = false := hclosed
  have hslot : q.hasSlot = true := hslot
  simp [offer, hvalid, hclosed, hslot, push, count]

/-- An offer that finds none leaves the queue as it was. -/
theorem offer_of_trySend_error {e : JobError} (hvalid : job.validate = .ok ())
    (h : (q.count job).trySend job = .error e) : q.offer job = (.error e, q) := by
  obtain ⟨hclosed, rfl⟩ | ⟨hclosed, hslot, rfl⟩ := trySend_error h
  · have hclosed : q.isClosed = true := hclosed
    simp [offer, hvalid, hclosed]
  · have hclosed : q.isClosed = false := hclosed
    have hslot : q.hasSlot = false := hslot
    simp [offer, hvalid, hclosed, hslot]

/-- A count that is taken back is as it was. -/
theorem count_finish_count (q : Queue) (job : Job) (ns : String) :
    ((q.count job).finish job).inFlight.count ns = q.inFlight.count ns := by
  simp only [count, finish, InFlight.count_release, InFlight.count_acquire]
  omega

theorem isClosed_grant (q : Queue) : q.grant.isClosed = q.isClosed := by
  obtain h | ⟨_, _, -, -, h⟩ := q.grant_cases <;> rw [h]

/-- A producer that has come stands where it was told. -/
theorem standing_enqueue {standing : Standing} (h : q.enqueue ticket job = (standing, q'))
    (hne : ∀ e, standing ≠ .refused e) : q'.standing ticket = standing := by
  unfold enqueue at h
  split at h
  · obtain ⟨rfl, -⟩ := Prod.mk.inj h
    exact absurd rfl (hne _)
  · split at h
    · obtain ⟨rfl, -⟩ := Prod.mk.inj h
      exact absurd rfl (hne _)
    · rename_i hclosed
      obtain ⟨rfl, rfl⟩ := Prod.mk.inj h
      have hclosed : (q.join ticket).isClosed = false :=
        (isClosed_grant _).trans (Bool.eq_false_iff.2 hclosed)
      simp [Queue.standing, hclosed]

end Queue

namespace Scene

variable {s t : Scene} {ticket : Ticket} {job : Job}

/-- What a producer was told. -/
def answer? (s : Scene) (ticket : Ticket) : Option (Except JobError Uuid) :=
  s.calls[ticket]?.bind Submission.answer?

theorem run_of_step? {m : Move} (h : s.step? m = some t) (moves : List Move) :
    s.run (m :: moves) = t.run moves := by
  change ((s.step? m).getD s).run moves = _
  rw [h]
  rfl

theorem run_of_step?_eq_none {m : Move} (h : s.step? m = none) (moves : List Move) :
    s.run (m :: moves) = s.run moves := by
  change ((s.step? m).getD s).run moves = _
  rw [h]
  rfl

/-- A submission that is answered goes no further. -/
theorem advance?_of_answer? {answer : Except JobError Uuid} (h : s.answer? ticket = some answer) :
    s.step? (.advance ticket) = none := by
  obtain ⟨⟨job, stage⟩, hc, h⟩ := Option.bind_eq_some_iff.1 h
  cases stage <;> simp_all [step?, advance?, Submission.answer?]

/-! ## Producers -/

theorem answer?_append {c : Submission} (h : t.calls = s.calls ++ [c]) :
    t.answer? s.calls.length = c.answer? := by
  simp [answer?, h]

theorem answer?_proceed {c : Submission} (hc : s.calls[ticket]? = some c) (job : Job) (stage : Stage)
    (q : Queue) : (s.proceed ticket job stage q).answer? ticket = Submission.answer? ⟨job, stage⟩ := by
  obtain ⟨hlength, -⟩ := List.getElem?_eq_some_iff.1 hc
  simp [answer?, proceed, hlength]

theorem call_proceed {c : Submission} (hc : s.calls[ticket]? = some c) (job : Job) (stage : Stage)
    (q : Queue) : (s.proceed ticket job stage q).calls[ticket]? = some ⟨job, stage⟩ :=
  List.getElem?_set_self (List.getElem?_eq_some_iff.1 hc).1

/-- A producer that does not wait and goes on at once is answered at once. -/
theorem run_offering (hc : s.calls[ticket]? = some ⟨job, .offering⟩) :
    let t := s.run [.advance ticket, .advance ticket]
    match s.queue.trySend job with
    | .ok q => t.answer? ticket = some (.ok job.id) ∧ t.queue = q
    | .error e => t.answer? ticket = some (.error e) ∧ t.queue = s.queue.finish job := by
  dsimp only
  split
  · rename_i q hsend
    have hstep : s.step? (.advance ticket) = some (s.accept ticket job q) := by
      simp [step?, advance?, hc, hsend]
    have hanswer : (s.accept ticket job q).answer? ticket = some (.ok job.id) :=
      answer?_proceed hc job .accepted q
    rw [run_of_step? hstep, run_of_step?_eq_none (advance?_of_answer? hanswer)]
    exact ⟨hanswer, rfl⟩
  · rename_i e hsend
    have hstep : s.step? (.advance ticket) = some (s.proceed ticket job (.refusing e) s.queue) := by
      simp [step?, advance?, hc, hsend]
    have hcall := call_proceed hc job (.refusing e) s.queue
    rw [run_of_step? hstep, run_of_step? (t := (s.proceed ticket job (.refusing e) s.queue).proceed
      ticket job (.refused e) (s.queue.finish job)) (by simp only [step?, advance?, hcall]; rfl)]
    exact ⟨answer?_proceed hcall job (.refused e) _, rfl⟩

theorem undisturbed_offer (s : Scene) (job : Job) :
    let t := s.run [.offer job, .advance s.calls.length, .advance s.calls.length]
    let (answer, daemon) := s.daemon.offer job
    t.answer? s.calls.length = some answer ∧ t.queue.line = daemon.queue.line ∧
      ∀ ns, t.queue.inFlight.count ns = daemon.queue.inFlight.count ns := by
  dsimp only
  rw [run_of_step? (rfl : s.step? (.offer job) = some (s.offer job))]
  unfold offer Daemon.offer
  cases hvalid : job.validate with
  | error e =>
    have hanswer := answer?_append (s := s)
      (t := { s with calls := s.calls ++ [⟨job, .refused (.invalid e)⟩] }) rfl
    rw [run_of_step?_eq_none (advance?_of_answer? hanswer),
      run_of_step?_eq_none (advance?_of_answer? hanswer)]
    simp only [Queue.offer, hvalid]
    exact ⟨hanswer, rfl, fun _ => rfl⟩
  | ok _ =>
    have result := run_offering (s := { s with
      daemon := { s.daemon with queue := s.queue.count job }
      calls := s.calls ++ [⟨job, .offering⟩] }) List.getElem?_concat_length
    cases hsend : (s.queue.count job).trySend job with
    | ok q =>
      simp only [queue, hsend] at result
      rw [Queue.offer_of_trySend_ok hvalid hsend]
      obtain ⟨hanswer, hqueue⟩ := result
      refine ⟨hanswer, ?_, fun ns => ?_⟩
      · rw [queue, hqueue]
      · rw [queue, hqueue]
    | error e =>
      simp only [queue, hsend] at result
      rw [Queue.offer_of_trySend_error hvalid hsend]
      obtain ⟨hanswer, hqueue⟩ := result
      refine ⟨hanswer, ?_, fun ns => ?_⟩
      · rw [queue, hqueue]
        rfl
      · rw [queue, hqueue, Queue.count_finish_count]

/-- A producer that has no slot yet does not go on. -/
theorem run_waiting (hc : s.calls[ticket]? = some ⟨job, .waiting⟩)
    (hwaiting : s.queue.standing ticket = .waiting) :
    let t := s.run [.advance ticket, .advance ticket]
    t.answer? ticket = none ∧ t.queue = s.queue := by
  dsimp only
  have hstep : s.step? (.advance ticket) = none := by simp [step?, advance?, hc, hwaiting]
  rw [run_of_step?_eq_none hstep, run_of_step?_eq_none hstep]
  exact ⟨by simp [answer?, run, hc, Submission.answer?], rfl⟩

/-- A producer that was granted a slot and goes on at once fills it. -/
theorem run_granted (hc : s.calls[ticket]? = some ⟨job, .waiting⟩)
    (hgranted : s.queue.standing ticket = .granted) :
    let t := s.run [.advance ticket, .advance ticket]
    t.answer? ticket = some (.ok job.id) ∧ t.queue = s.queue.fill ticket job := by
  dsimp only
  have hstep : s.step? (.advance ticket) = some (s.proceed ticket job .counted (s.queue.count job)) := by
    simp [step?, advance?, hc, hgranted]
  have hcall := call_proceed hc job .counted (s.queue.count job)
  rw [run_of_step? hstep, run_of_step? (t := (s.proceed ticket job .counted (s.queue.count job)).accept
    ticket job ((s.queue.count job).send ticket job)) (by simp only [step?, advance?, hcall]; rfl)]
  exact ⟨answer?_proceed hcall job .accepted ((s.queue.count job).send ticket job), rfl⟩

/-- A producer goes on as the daemon has it, with what the daemon tells it. -/
theorem undisturbed_advance (hc : s.calls[ticket]? = some ⟨job, .waiting⟩)
    (hproducer : s.daemon.producers.find? (fun p => p.ticket = ticket) = some ⟨ticket, job⟩) :
    let t := s.run [.advance ticket, .advance ticket]
    match s.daemon.stepProducer ticket with
    | none => t.answer? ticket = none ∧ t.queue = s.queue
    | some daemon => ∃ answer, t.answer? ticket = some answer ∧
        daemon.outcomes = s.daemon.outcomes ++ [(ticket, answer)] ∧ t.queue = daemon.queue := by
  dsimp only
  unfold Daemon.stepProducer
  rw [hproducer]
  simp only [Option.bind_eq_bind, Option.bind_some]
  cases hstanding : s.daemon.queue.standing ticket with
  | waiting =>
    exact run_waiting hc hstanding
  | granted =>
    obtain ⟨hanswer, hqueue⟩ := run_granted hc hstanding
    exact ⟨_, hanswer, rfl, hqueue⟩
  | refused e =>
    have hstep : s.step? (.advance ticket) = some (s.proceed ticket job (.refused e) s.queue) := by
      simp [step?, advance?, hc, hstanding]
    have hanswer := answer?_proceed hc job (.refused e) s.queue
    rw [run_of_step? hstep, run_of_step?_eq_none (advance?_of_answer? hanswer)]
    exact ⟨_, hanswer, rfl, rfl⟩

/-- A producer comes, and goes on if it can at once. -/
theorem undisturbed_come (s : Scene) (job : Job) (hticket : s.daemon.nextTicket = s.calls.length) :
    let t := s.run [.come job, .advance s.calls.length, .advance s.calls.length]
    let (_, answer, daemon) := s.daemon.enqueue job
    t.answer? s.calls.length = answer ∧ t.queue = daemon.queue := by
  dsimp only
  rw [run_of_step? (rfl : s.step? (.come job) = some (s.come job))]
  unfold come Daemon.enqueue
  rw [hticket]
  rcases henqueue : s.daemon.queue.enqueue s.calls.length job with ⟨standing, q⟩
  have hcall : ({ s with
      daemon := { s.daemon with queue := q }
      calls := s.calls ++ [⟨job, .waiting⟩] } : Scene).calls[s.calls.length]?
        = some ⟨job, .waiting⟩ := List.getElem?_concat_length
  cases standing with
  | refused e =>
    have hanswer := answer?_append (s := s)
      (t := { s with calls := s.calls ++ [⟨job, .refused e⟩] }) rfl
    simp only [henqueue]
    rw [run_of_step?_eq_none (advance?_of_answer? hanswer),
      run_of_step?_eq_none (advance?_of_answer? hanswer)]
    exact ⟨hanswer, (Queue.enqueue_refused henqueue).symm⟩
  | granted =>
    simp only [henqueue]
    exact run_granted hcall (Queue.standing_enqueue henqueue nofun)
  | waiting =>
    simp only [henqueue]
    exact run_waiting hcall (Queue.standing_enqueue henqueue nofun)

/-- A producer that waits goes away. -/
theorem undisturbed_abandon (hc : s.calls[ticket]? = some ⟨job, .waiting⟩) :
    (s.run [.abandon ticket]).queue = (s.daemon.withdraw ticket).queue := by
  rw [run_of_step? (t := s.proceed ticket job .abandoned (s.queue.leave ticket))
    (by simp [step?, abandon?, hc])]
  rfl

/-! ## Workers and their pool -/

variable {pool : Pool}

/-- A worker looks whether it was told to end, and takes a job. -/
theorem undisturbed_reach {i : Nat} {q : Queue} (hpool : s.daemon.pool = some pool)
    (hw : pool.workers[i]? = some .idle) (hshutdown : pool.isShutdown = false)
    (htake : s.queue.take? = some (job, q)) :
    s.daemon.stepWorker i = some (s.run [.look i, .reach i]).daemon := by
  have hworkers : s.daemon.workers[i]? = some .idle := by rwa [Daemon.workers, hpool]
  have hlook : s.step? (.look i) = some { s with reaching := i :: s.reaching } := by
    simp [step?, look?, hpool, hw, hshutdown]
  have hreach : ({ s with reaching := i :: s.reaching } : Scene).step? (.reach i)
      = some (worked { s with reaching := i :: s.reaching } i .idle (.taken job)
        ({ s.daemon with queue := q }.setWorker i (.taken job))) := by
    simp [step?, reach?, htake, hworkers]
  rw [run_of_step? hlook, run_of_step? hreach]
  simp only [Daemon.stepWorker, hpool, Option.bind_eq_bind, Option.bind_some, hw, hshutdown,
    Bool.false_eq_true, if_false, htake]
  rfl

/-- The workers that are left to start are started one by one. -/
theorem run_spawning {left : Nat} (hpool : s.daemon.pool = some pool) (h : s.launch = .spawning left) :
    let t := s.run (List.replicate (left + 1) .spawn)
    t.launch = .returned ∧ t.daemon.pool
      = some { pool with workers := pool.workers ++ List.replicate left .idle } := by
  induction left generalizing s pool with
  | zero =>
    have hstep : s.step? .spawn = some { s with launch := .returned } := by simp [step?, spawn?, h]
    dsimp only
    rw [List.replicate_one, run_of_step? hstep]
    exact ⟨rfl, by simpa [run] using hpool⟩
  | succ left ih =>
    have hstep : s.step? .spawn = some { s with
        daemon := s.daemon.updatePool Pool.spawn
        launch := .spawning left } := by simp [step?, spawn?, h]
    have rest := ih (s := { s with
      daemon := s.daemon.updatePool Pool.spawn
      launch := .spawning left }) (Daemon.pool_updatePool hpool _) rfl
    dsimp only at rest ⊢
    rw [List.replicate_succ, run_of_step? hstep]
    refine ⟨rest.1, rest.2.trans ?_⟩
    simp [Pool.spawn, List.replicate_succ]

theorem Staffed.of_never (hs : s.Staffed pool) (hlaunch : s.launch = .never) :
    pool.isStarted = false ∧ pool.workers = [] := by
  have staff := hs.staff
  rw [hlaunch, Launch.left] at staff
  refine ⟨Bool.eq_false_iff.2 fun hstarted => hs.started.1 hstarted hlaunch, ?_⟩
  exact List.length_eq_zero_iff.1 (by omega)

theorem Staffed.of_returned (hs : s.Staffed pool) (hlaunch : s.launch = .returned) :
    pool.isStarted = true ∧ pool.workers ≠ [] := by
  have staff := hs.staff
  have concurrency := hs.concurrency
  rw [hlaunch, Launch.left] at staff
  refine ⟨hs.started.2 (by simp [hlaunch]), fun hnone => ?_⟩
  rw [hnone, List.length_nil] at staff
  omega

/-- The workers are started. -/
theorem undisturbed_start (hs : s.Staffed pool) (hlaunch : s.launch = .never) :
    let t := s.run (.start :: .lock :: List.replicate (pool.concurrency + 1) .spawn)
    t.launch = .returned ∧ t.daemon.pool = s.daemon.startWorkers.pool := by
  obtain ⟨hstarted, hnone⟩ := hs.of_never hlaunch
  have hstart : s.step? .start = some { s with
      daemon := s.daemon.updatePool fun p => { p with isStarted := true }
      launch := .locking } := by
    simp [step?, start?, hs.pool_eq, hstarted]
  have hlock : ({ s with
      daemon := s.daemon.updatePool fun p => { p with isStarted := true }
      launch := .locking } : Scene).step? .lock = some { s with
        daemon := s.daemon.updatePool fun p => { p with isStarted := true }
        launch := .spawning pool.concurrency } := by
    simp [step?, lock?, Daemon.updatePool, hs.pool_eq]
  have spawned := run_spawning (s := { s with
    daemon := s.daemon.updatePool fun p => { p with isStarted := true }
    launch := .spawning pool.concurrency }) (Daemon.pool_updatePool hs.pool_eq _) rfl
  dsimp only at spawned ⊢
  rw [run_of_step? hstart, run_of_step? hlock]
  refine ⟨spawned.1, spawned.2.trans ?_⟩
  simp [Daemon.startWorkers, hs.pool_eq, Pool.start, hstarted, hnone]

/-- Whoever stops the workers tells them, and takes the handles. -/
theorem undisturbed_stop (hs : s.Staffed pool) (hlaunch : s.launch = .never ∨ s.launch = .returned) :
    let t := s.run [.stop, .drain s.stops.length]
    let (awaits, daemon) := s.daemon.stopWorkers
    t.daemon.pool = daemon.pool ∧
      t.stops = s.stops ++ [.awaiting pool.handles pool.handles] ∧
      (awaits = true ↔ pool.handles ≠ []) := by
  have hdrain : s.stop.step? (.drain s.stops.length) = some { s.stop with
      daemon := s.stop.daemon.updatePool Pool.drained
      stops := s.stop.stops.set s.stops.length (.awaiting pool.handles pool.handles) } := by
    rcases hlaunch with hlaunch | hlaunch <;>
      simp [step?, drain?, stop, Daemon.updatePool, hs.pool_eq, hlaunch, Pool.handles, Pool.signal]
  have hempty : pool.isStarted = !pool.workers.isEmpty := by
    rcases hlaunch with hlaunch | hlaunch
    · obtain ⟨hstarted, hnone⟩ := hs.of_never hlaunch
      simp [hstarted, hnone]
    · obtain ⟨hstarted, hsome⟩ := hs.of_returned hlaunch
      simp [hstarted, hsome]
  dsimp only
  rw [run_of_step? (rfl : s.step? .stop = some s.stop), run_of_step? hdrain]
  refine ⟨?_, ?_, ?_⟩
  · simp [run, stop, Daemon.updatePool, Daemon.stopWorkers, hs.pool_eq, Pool.signal, Pool.drained,
      Pool.stop, hempty]
  · simp [run, stop]
  · simp [Daemon.stopWorkers, hs.pool_eq, Pool.stop, Pool.handles, hempty, and_comm]

end Scene

/-! ## Passes for drift -/

namespace Pass

variable {x : Pass}

/-- The watcher is answered as the daemon answers, and leaves the daemon as it does. -/
theorem undisturbed_ask {r : Request} {next : r.Answer → Program _} (hrest : x.rest = .ask r next)
    (hr : ∀ config attempts, r ≠ .offer config attempts) :
    let (answer, daemon) := x.scene.daemon.serve r
    (x.run [.watcher]).rest = next answer ∧ (x.run [.watcher]).scene.daemon = daemon := by
  change ((x.poll?).getD x).rest = _ ∧ ((x.poll?).getD x).scene.daemon = _
  unfold poll?
  cases r with
  | offer config attempts => exact absurd rfl (hr config attempts)
  | _ =>
    simp only [hrest]
    exact ⟨rfl, rfl⟩

theorem run_others (x : Pass) (moves : List Move) :
    x.run (moves.map .others) = { x with scene := x.scene.run moves } := by
  induction moves generalizing x with
  | nil => rfl
  | cons m rest ih =>
    change run ((x.step? (.others m)).getD x) (rest.map .others)
      = { x with scene := ((x.scene.step? m).getD x.scene).run rest }
    cases hm : x.scene.step? m with
    | none =>
      rw [step?, hm]
      exact ih x
    | some t =>
      rw [step?, hm]
      exact ih { x with scene := t }

/-- A job that the watcher offers is put or refused as the daemon does it. -/
theorem undisturbed_put {config : Deployment} {attempts : UInt32}
    {next : Except JobError Uuid → Program _} (hrest : x.rest = .ask (.offer config attempts) next)
    (hposted : x.posted = none) :
    let n := x.scene.calls.length
    let y := x.run [.watcher, .others (.advance n), .others (.advance n), .watcher]
    let (answer, daemon) := x.scene.daemon.serve (.offer config attempts)
    y.rest = next answer ∧ y.posted = none ∧ y.scene.queue.line = daemon.queue.line ∧
      ∀ ns, y.scene.queue.inFlight.count ns = daemon.queue.inFlight.count ns := by
  intro n y
  let d := (x.scene.daemon.newRollout config attempts).2
  let job := (x.scene.daemon.newRollout config attempts).1
  -- the scene in which the offer is made and answered
  let t := (x.scene.elsewhere d).run [.offer job, .advance n, .advance n]
  obtain ⟨hanswer, hline, hcounts⟩ := Scene.undisturbed_offer (x.scene.elsewhere d) job
  have hposts : x.poll? = some { x with
      scene := (x.scene.elsewhere d).offer job
      posted := some n } := by
    simp only [poll?, hrest, hposted]
    rfl
  have hwaits : x.run [.watcher, .others (.advance n), .others (.advance n)]
      = { x with scene := t, posted := some n } := by
    change run ((x.poll?).getD x) ([.advance n, .advance n].map .others) = _
    rw [hposts, run_others]
    rfl
  have hends : ({ x with scene := t, posted := some n } : Pass).poll? = some { x with
      scene := t
      rest := next (x.scene.daemon.serve (.offer config attempts)).1
      posted := none } := by
    obtain ⟨c, hc, hanswer⟩ := Option.bind_eq_some_iff.1 hanswer
    have hc : t.calls[n]? = some c := hc
    simp only [poll?, hrest, hc, Option.bind_eq_bind, Option.bind_some, hanswer]
    rfl
  have hy : y = { x with
      scene := t
      rest := next (x.scene.daemon.serve (.offer config attempts)).1
      posted := none } := by
    change ((x.run [.watcher, .others (.advance n), .others (.advance n)]).poll?).getD _ = _
    rw [hwaits, hends]
    rfl
  rw [hy]
  exact ⟨rfl, rfl, hline, hcounts⟩

end Pass

end Orchestrator
