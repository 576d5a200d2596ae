import Orchestrator.Proofs.Daemon.Serial
import Orchestrator.Proofs.Drift.Flight
import Orchestrator.Proofs.Store.Deployments

/-!
# A pass for drift beside the workers

A pass asks of each saved deployment whether it is busy, lists its containers, and offers a job if some
are missing. If nobody else brings jobs, then what a deployment is found to have is what it had when the
pass began, however far the workers have come with the jobs of deployments before it. So the pass is
answered as if it were alone (`Setting.patrol`), and its report can be told in advance
(`Drift.poll_patrol`).
-/
namespace Orchestrator

open Engine Daemon

/-! ## What a pass finds -/

namespace Daemon

/-- The number of running containers of a deployment. -/
def running (s : Daemon) (name : String) : Nat :=
  (((s.memory.owned name).map Created.container).filter Container.isRunning).length

/-- Fewer containers of a deployment run than its scale. -/
def Lacks (s : Daemon) (d : Deployment) : Prop := s.running d.name < d.scale.toNat

instance (s : Daemon) (d : Deployment) : Decidable (s.Lacks d) := inferInstanceAs (Decidable (_ < _))

/-- What a pass reports of a deployment that nobody is at. -/
def finding (s : Daemon) (d : Deployment) : String × Drift :=
  (d.name, if s.Lacks d then .enqueued else .satisfied)

end Daemon

/-- A pass that begins in a daemon with saved deployments, where jobs have been offered for the
deployments `given` so far. It looks at other deployments only, finds nobody at them and their
containers as they were in the beginning, and offers jobs for those that lack containers, which are
accepted. -/
def Setting.patrol (s₀ : Daemon) (saved : List Deployment) : Setting (List Deployment) where
  allowed
    | .isBusy name, given => name ∉ given.map Deployment.name
    | .engine (.list label name), given =>
      label = Container.ownerLabel ∧ name ∉ given.map Deployment.name
    | .offer d attempts, given =>
      (d ∈ saved ∧ s₀.Lacks d) ∧ d.name ∉ given.map Deployment.name ∧ attempts = s₀.driftAttempts
    | _, _ => False
  answers
    | .isBusy _, given, busy, given' => busy = false ∧ given' = given
    | .engine (.list _ name), given, reply, given' =>
      reply = .ok ((s₀.memory.owned name).map Created.container) ∧ given' = given
    | .offer d _, given, answer, given' => (∃ id, answer = .ok id) ∧ given' = given ++ [d]
    | _, _, _, _ => False

namespace Drift

variable {s₀ : Daemon} {saved given : List Deployment} {d : Deployment}

theorem reconcile_patrol (hd : d ∈ saved) (hnew : d.name ∉ given.map Deployment.name) :
    (reconcile s₀.driftAttempts d).Meets (.patrol s₀ saved)
      (fun found given' => found = (s₀.finding d).2 ∧
        given' = given ++ [d].filter fun d => decide (s₀.Lacks d)) (fun _ _ => False) given := by
  refine Program.meets_bind.2 (Program.meets_map.2 ⟨⟨rfl, hnew⟩, ?_⟩)
  rintro reply given' ⟨rfl, rfl⟩
  simp only [Program.meets_done, Except.mapError]
  split
  · rename_i hfull
    have hno : ¬ s₀.Lacks d := Nat.not_lt.2 hfull
    simp [finding, hno]
  · rename_i hshort
    have hlacks : s₀.Lacks d := Nat.lt_of_not_le hshort
    refine ⟨⟨⟨hd, hlacks⟩, hnew, rfl⟩, ?_⟩
    rintro answer given'' ⟨⟨id, rfl⟩, rfl⟩
    have hfound : (s₀.finding d).2 = .enqueued := if_pos hlacks
    exact ⟨hfound.symm, by simp [hlacks]⟩

theorem check_patrol (hd : d ∈ saved) (hnew : d.name ∉ given.map Deployment.name) :
    (check s₀.driftAttempts d).Meets (.patrol s₀ saved)
      (fun found given' => found = (s₀.finding d).2 ∧
        given' = given ++ [d].filter fun d => decide (s₀.Lacks d)) (fun _ _ => False) given := by
  refine Task.meets_bind.2 (Task.meets_ask.2 ⟨hnew, ?_⟩)
  rintro busy given' ⟨rfl, rfl⟩
  exact reconcile_patrol hd hnew

/-- The pass reports what each deployment had in the beginning, and offers jobs for those that lacked
containers. -/
theorem poll_patrol {todo : List Deployment} (hsaved : todo ⊆ saved)
    (hnodup : (todo.map Deployment.name).Nodup)
    (hnew : ∀ d ∈ todo, d.name ∉ given.map Deployment.name) :
    (poll s₀.driftAttempts todo).Meets (.patrol s₀ saved)
      (fun report given' => report = todo.map s₀.finding ∧
        given' = given ++ todo.filter fun d => decide (s₀.Lacks d)) (fun _ _ => False) given := by
  induction todo generalizing given with
  | nil => exact ⟨rfl, (List.append_nil given).symm⟩
  | cons d rest ih =>
    obtain ⟨hfirst, hrest⟩ := List.nodup_cons.1 hnodup
    refine Task.meets_bind.2 ((check_patrol (hsaved List.mem_cons_self) (hnew d List.mem_cons_self)).mono
      ?_ fun _ _ h => h)
    rintro found given' ⟨rfl, rfl⟩
    have hlater : ∀ e ∈ rest, e.name ∉ (given ++ [d].filter fun d => decide (s₀.Lacks d)).map
        Deployment.name := by
      intro e he hmem
      rw [List.map_append, List.mem_append] at hmem
      rcases hmem with hmem | hmem
      · exact hnew e (List.mem_cons_of_mem _ he) hmem
      · obtain ⟨d', hd', hname⟩ := List.mem_map.1 hmem
        obtain rfl := List.mem_singleton.1 (List.mem_filter.1 hd').1
        rw [hname] at hfirst
        exact hfirst (List.mem_map_of_mem he)
    refine Task.meets_bind.2 ((ih (fun e he => hsaved (List.mem_cons_of_mem _ he)) hrest hlater).mono ?_
      fun _ _ h => h)
    rintro report given' ⟨rfl, rfl⟩
    refine ⟨rfl, ?_⟩
    rw [List.append_assoc, ← List.filter_append]
    rfl

end Drift

/-! ## Rounds -/

/-- A pass beside the workers: the daemon, and what is left of the pass. -/
structure Round where
  daemon : Daemon
  rest : Program (Except (Failure Empty) DriftReport)

namespace Round

/-- A pass over the saved deployments is about to begin. -/
def begin? (s : Daemon) : Except StoreError Round :=
  s.store.deployments.map fun deployments => ⟨s, (Drift.poll s.driftAttempts deployments).run⟩

/-- The pass goes on by a request, someone in the daemon takes a step, or time goes by. -/
inductive Step : Round → Round → Prop
  | pass {s : Daemon} {r : Request} {next : r.Answer → Program (Except (Failure Empty) DriftReport)} :
    Step ⟨s, .ask r next⟩ ⟨(s.serve r).2, next (s.serve r).1⟩
  | act {s t : Daemon} {rest : Program (Except (Failure Empty) DriftReport)} (a : Actor)
    (h : s.step? a = some t) : Step ⟨s, rest⟩ ⟨t, rest⟩
  | wait {s : Daemon} {rest : Program (Except (Failure Empty) DriftReport)} (milliseconds : Nat) :
    Step ⟨s, rest⟩ ⟨{ s with now := s.now + milliseconds }, rest⟩

/-- Any number of steps, in any order. -/
inductive Leads (x : Round) : Round → Prop
  | here : Leads x x
  | step {y z : Round} (h : Leads x y) (hstep : Step y z) : Leads x z

theorem Leads.trans {x y z : Round} (h : Leads x y) (h' : Leads y z) : Leads x z := by
  induction h' with
  | here => exact h
  | step _ hstep ih => exact ih.step hstep

/-- Whatever the others have done, the pass can be brought to its end. -/
theorem finishes (x : Round) : ∃ y outcome, Leads x y ∧ y.rest = .done outcome := by
  obtain ⟨s, rest⟩ := x
  induction rest generalizing s with
  | done outcome => exact ⟨_, outcome, .here, rfl⟩
  | ask r next ih =>
    obtain ⟨y, outcome, hleads, hdone⟩ := ih (s.serve r).1 (s.serve r).2
    exact ⟨y, outcome, (Leads.here.step .pass).trans hleads, hdone⟩

end Round

/-! ## The jobs that are offered -/

theorem isBlank_of_isLowerLetter {c : Char} (h : isLowerLetter c = true) : Text.isBlank c = false := by
  have hlow : ('a' : Char).toNat = 97 := rfl
  have hhigh : ('z' : Char).toNat = 122 := rfl
  simp only [isLowerLetter, Bool.and_eq_true, decide_eq_true_eq] at h
  have hlt : ('a' : Char).toNat ≤ c.toNat := h.1
  have hle : c.toNat ≤ ('z' : Char).toNat := h.2
  simp [Text.isBlank]
  omega

/-- A name of a deployment is not blank. -/
theorem isBlankText_of_isDeploymentName {name : String} (h : isDeploymentName name = true) :
    Text.isBlankText name = false := by
  rw [isDeploymentName, Bool.and_eq_true] at h
  cases hname : name.toList with
  | nil =>
    rw [hname] at h
    cases h.2
  | cons c rest =>
    rw [Text.isBlankText, hname, List.all_cons]
    cases rest with
    | nil =>
      rw [hname] at h
      cases h.2
    | cons c' rest =>
      rw [hname, isFramed, Bool.and_eq_true, Bool.and_eq_true] at h
      rw [isBlank_of_isLowerLetter h.2.1.1]
      rfl

/-- The job that rolls a named deployment out is valid. -/
theorem Job.validate_create {id : Uuid} {now : Instant} {d : Deployment} {attempts : UInt32}
    (hname : isDeploymentName d.name = true) (hattempts : 1 ≤ attempts) :
    (Job.create id now d attempts).validate = .ok () := by
  have hblank : Text.isBlankText (Job.create id now d attempts).scope = false :=
    isBlankText_of_isDeploymentName hname
  have hscope : (Job.create id now d attempts).scope = (Job.create id now d attempts).config.name := rfl
  unfold Job.validate
  rw [hblank, if_neg (by decide), if_neg (not_not.2 hscope), if_neg]
  exact UInt32.not_lt.2 hattempts

/-! ## The daemon during a round -/

/-- Nothing is granted if nobody waits. -/
theorem Queue.grant_eq_self {q : Queue} (h : q.waiting = []) : q.grant = q := by
  unfold grant
  rw [h]

namespace Daemon

/-- Nobody waits for a slot of the queue or has one that is unused, the daemon's own watcher is not at
work, and neither queue nor workers were told to end. -/
structure InService (s : Daemon) : Prop where
  producers : s.producers = []
  watch : s.watch = none
  isOpen : s.queue.isClosed = false
  waiting : s.queue.waiting = []
  granted : s.queue.granted = []
  isRunning : ∀ pool, s.pool = some pool → pool.isShutdown = false

variable {s t : Daemon} {pool : Pool} {i : Nat} {w w' : Worker}

/-- What a step of a worker leaves as it is, apart from the queue and the pool. -/
theorem WorkerStep.rest (hstep : WorkerStep s pool i w w' t) :
    t.producers = s.producers ∧ t.watch = s.watch ∧ t.driftAttempts = s.driftAttempts ∧
      (t.store = s.store ∨ ∃ a, t.store = s.store.recordActivity a) := by
  cases hstep with
  | succeed => exact ⟨rfl, rfl, rfl, .inr ⟨_, rfl⟩⟩
  | fail _ => exact ⟨rfl, rfl, rfl, .inr ⟨_, rfl⟩⟩
  | @ask _ _ r _ _ => cases r <;> exact ⟨rfl, rfl, rfl, .inl rfl⟩
  | _ => exact ⟨rfl, rfl, rfl, .inl rfl⟩

/-- What a step of a worker does to the queue: it takes the first job of the line, or leaves the line as
it is. -/
theorem Effect.queue (h : Effect s w w' t) (hwaiting : s.queue.waiting = []) :
    (t.queue.line = s.queue.line ∨ ∃ job, s.queue.line = job :: t.queue.line) ∧
      t.queue.capacity = s.queue.capacity ∧ t.queue.isClosed = s.queue.isClosed ∧
      t.queue.waiting = s.queue.waiting ∧ t.queue.granted = s.queue.granted := by
  cases h with
  | @take job _ _ _ hqueue _ =>
    obtain ⟨rest, hline, heq⟩ := Queue.take?_cases hqueue
    have hgrant : t.queue = { s.queue with line := rest } := by
      rw [heq]
      exact Queue.grant_eq_self hwaiting
    rw [hgrant]
    exact ⟨.inr ⟨job, hline⟩, rfl, rfl, rfl, rfl⟩
  | finish _ _ _ _ hqueue _ =>
    rw [hqueue]
    exact ⟨.inl rfl, rfl, rfl, rfl, rfl⟩
  | keep _ _ hqueue _ =>
    rw [hqueue]
    exact ⟨.inl rfl, rfl, rfl, rfl, rfl⟩

theorem InService.step (h : s.InService) (hpool : s.pool = some pool)
    (hstep : WorkerStep s pool i w w' t) (htame : w.Tame) : t.InService := by
  obtain ⟨hproducers, hwatch, -, -⟩ := hstep.rest
  obtain ⟨-, -, hclosed, hwaiting, hgranted⟩ := (hstep.effect htame).queue h.waiting
  obtain ⟨executor, hpool', -⟩ := hstep.pool_cases hpool
  refine ⟨?_, ?_, ?_, ?_, ?_, ?_⟩
  · rw [hproducers]
    exact h.producers
  · rw [hwatch]
    exact h.watch
  · rw [hclosed]
    exact h.isOpen
  · rw [hwaiting]
    exact h.waiting
  · rw [hgranted]
    exact h.granted
  · intro pool' ht
    rw [hpool'] at ht
    obtain rfl := Option.some.inj ht
    exact h.isRunning pool hpool

/-- An idle worker that was not told to end takes a job, if it does anything. -/
theorem InService.idle_step (h : s.InService) (hpool : s.pool = some pool)
    (hw : s.workers[i]? = some .idle) (hstep : s.stepWorker i = some t) :
    ∃ job, t.workers = s.workers.set i (.taken job) := by
  have hworkers : s.workers = pool.workers := by rw [workers, hpool]
  rw [hworkers] at hw
  simp only [stepWorker, hpool, Option.bind_eq_bind, Option.bind_some, hw, h.isRunning pool hpool,
    h.isOpen, Bool.false_eq_true, if_false] at hstep
  split at hstep
  · rename_i job queue htake
    refine ⟨job, ?_⟩
    rw [← Option.some.inj hstep, hworkers]
    rfl
  · cases hstep

/-- Sockets and deliveries touch nothing else. -/
theorem step?_rest {a : Actor} (h : s.InService) (hstep : s.step? a = some t) :
    (∃ i, a = .worker i) ∨ ∃ hub sockets, t = { s with hub := hub, sockets := sockets } := by
  cases a with
  | worker i => exact .inl ⟨i, rfl⟩
  | producer ticket =>
    have hnone : s.step? (.producer ticket) = none := by
      simp [step?, stepProducer, h.producers]
    rw [hnone] at hstep
    cases hstep
  | watcher =>
    have hnone : s.step? .watcher = none := by
      simp [step?, stepWatcher, h.watch]
    rw [hnone] at hstep
    cases hstep
  | delivery i =>
    obtain ⟨hub, -, rfl⟩ := Option.map_eq_some_iff.1 hstep
    exact .inr ⟨hub, s.sockets, rfl⟩
  | socket i =>
    right
    change s.stepSocket i = some t at hstep
    unfold stepSocket at hstep
    obtain ⟨socket, -, hstep⟩ := Option.bind_eq_some_iff.1 hstep
    split at hstep
    · cases hstep
    · obtain ⟨wake, -, hstep⟩ := Option.bind_eq_some_iff.1 hstep
      have hconsume : ∃ hub sockets, s.consume i socket wake = { s with hub := hub, sockets := sockets } := by
        cases wake <;> exact ⟨_, _, rfl⟩
      obtain ⟨hub, sockets, hconsume⟩ := hconsume
      rw [hconsume] at hstep
      obtain rfl := Option.some.inj hstep
      split <;> exact ⟨_, _, rfl⟩

/-- What only workers change. -/
structure Spares (s t : Daemon) : Prop where
  pool : t.pool = s.pool
  locks : t.locks = s.locks
  producers : t.producers = s.producers
  watch : t.watch = s.watch
  attempts : t.driftAttempts = s.driftAttempts
  store : t.store = s.store

theorem offer_accepted {job : Job} (h : s.queue.offer job = (.ok (), s.queue.push job)) :
    s.offer job = (.ok job.id, { s with queue := s.queue.push job }) := by
  unfold Daemon.offer
  rw [h]
  rfl

/-- A job that is offered for a named deployment is accepted if a slot is free. -/
theorem InService.serve_offer {d : Deployment} {attempts : UInt32} (h : s.InService)
    (hname : isDeploymentName d.name = true) (hattempts : 1 ≤ attempts) (hslot : s.queue.hasSlot = true) :
    ∃ job t, s.serve (.offer d attempts) = (.ok job.id, t) ∧ job.scope = d.name ∧
      job.work = .create d [] [] ∧ job.validate = .ok () ∧ t.queue = s.queue.push job ∧ Spares s t ∧ Aside s t := by
  have hvalid := @Job.validate_create s.newId.1 s.newId.2.stamp.1 d attempts hname hattempts
  have hoffer : s.queue.offer (Job.create s.newId.1 s.newId.2.stamp.1 d attempts)
      = (.ok (), s.queue.push (Job.create s.newId.1 s.newId.2.stamp.1 d attempts)) := by
    rw [Queue.offer, hvalid]
    simp only [h.isOpen, hslot, Bool.false_eq_true, if_false, if_true]
  refine ⟨Job.create s.newId.1 s.newId.2.stamp.1 d attempts, { s.newId.2.stamp.2 with
    queue := s.queue.push (Job.create s.newId.1 s.newId.2.stamp.1 d attempts) }, ?_, rfl, rfl, hvalid, rfl,
    ⟨rfl, rfl, rfl, rfl, rfl, rfl⟩, ⟨rfl, rfl, fun _ _ => rfl, Nat.le_refl _, rfl⟩⟩
  exact @offer_accepted s.newId.2.stamp.2 _ hoffer

end Daemon

end Orchestrator
