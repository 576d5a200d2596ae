import Orchestrator.Daemon.Actors
import Orchestrator.Proofs.Daemon.Steps

/-!
# Runs of the daemon and their histories

A run is any interleaving of the workers' steps with what others do. Others cannot touch workers and
locks, and the line of the queue only by having valid jobs accepted at its end: `Outside`. That is all
that producers, the watcher for drift, deliveries, sockets and the clock ever do (`outside_step?`,
`outside_enqueue`, `outside_offer`, `outside_withdraw`).

The history of a run tells what became of each job, in the order of the run: it is accepted, a worker
takes it and asks for the lock of its deployment, its first attempt begins, and it ends. It is read off
the change of the worker that takes the step.
-/
namespace Orchestrator

/-- What can happen to a job. -/
inductive Happening where
  | accepted (job : Job)
  | taken (job : Job)
  /-- Its worker has asked for the lock of its deployment. -/
  | asked (job : Job)
  /-- Its first attempt has begun. -/
  | begun (job : Job)
  | completed (job : Job)
  /-- Its worker has ended in a panic. -/
  | lost (job : Job)
  deriving DecidableEq

namespace Happening

def accepted? : Happening → Option Job
  | .accepted job => some job
  | _ => none

def taken? : Happening → Option Job
  | .taken job => some job
  | _ => none

def asked? : Happening → Option Job
  | .asked job => some job
  | _ => none

def begun? : Happening → Option Job
  | .begun job => some job
  | _ => none

def completed? : Happening → Option Job
  | .completed job => some job
  | _ => none

def ended? : Happening → Option Job
  | .completed job | .lost job => some job
  | _ => none

end Happening

/-- What happened, oldest first. -/
abbrev History : Type := List Happening

/-- The jobs of a deployment among others. -/
def jobsOf (d : String) (jobs : List Job) : List Job := jobs.filter fun job => job.scope = d

@[simp] theorem jobsOf_append (d : String) (jobs jobs' : List Job) :
    jobsOf d (jobs ++ jobs') = jobsOf d jobs ++ jobsOf d jobs' := List.filter_append ..

theorem jobsOf_of_eq {d : String} {job : Job} (h : job.scope = d) : jobsOf d [job] = [job] := by
  simp [jobsOf, h]

theorem jobsOf_of_ne {d : String} {job : Job} (h : job.scope ≠ d) : jobsOf d [job] = [] := by
  simp [jobsOf, h]

namespace History

/-- All jobs that were accepted, in that order. -/
def accepted (h : History) : List Job := h.filterMap Happening.accepted?

/-- All jobs that were taken out of the queue, in that order. -/
def taken (h : History) : List Job := h.filterMap Happening.taken?

/-- The jobs of a deployment whose workers have asked for its lock, in that order. -/
def asked (d : String) (h : History) : List Job := jobsOf d (h.filterMap Happening.asked?)

/-- The jobs of a deployment that have begun, in that order. -/
def begun (d : String) (h : History) : List Job := jobsOf d (h.filterMap Happening.begun?)

/-- The jobs of a deployment that have completed, in that order. -/
def completed (d : String) (h : History) : List Job := jobsOf d (h.filterMap Happening.completed?)

/-- The jobs of a deployment that have completed, or whose workers have ended, in that order. -/
def ended (d : String) (h : History) : List Job := jobsOf d (h.filterMap Happening.ended?)

variable {d : String} {h h' : History}

@[simp] theorem accepted_append : accepted (h ++ h') = accepted h ++ accepted h' :=
  List.filterMap_append

@[simp] theorem taken_append : taken (h ++ h') = taken h ++ taken h' := List.filterMap_append

@[simp] theorem asked_append : asked d (h ++ h') = asked d h ++ asked d h' := by
  simp [asked, List.filterMap_append]

@[simp] theorem begun_append : begun d (h ++ h') = begun d h ++ begun d h' := by
  simp [begun, List.filterMap_append]

@[simp] theorem completed_append : completed d (h ++ h') = completed d h ++ completed d h' := by
  simp [completed, List.filterMap_append]

@[simp] theorem ended_append : ended d (h ++ h') = ended d h ++ ended d h' := by
  simp [ended, List.filterMap_append]

/-- Acceptances say nothing of the later fate of jobs. -/
@[simp] theorem accepted_map (jobs : List Job) : accepted (jobs.map .accepted) = jobs := by
  simp [accepted, List.filterMap_map, Function.comp_def, Happening.accepted?]

@[simp] theorem taken_map (jobs : List Job) : taken (jobs.map .accepted) = [] := by
  simp [taken, Happening.taken?]

@[simp] theorem asked_map (jobs : List Job) : asked d (jobs.map .accepted) = [] := by
  simp [asked, jobsOf, Happening.asked?]

@[simp] theorem begun_map (jobs : List Job) : begun d (jobs.map .accepted) = [] := by
  simp [begun, jobsOf, Happening.begun?]

@[simp] theorem completed_map (jobs : List Job) : completed d (jobs.map .accepted) = [] := by
  simp [completed, jobsOf, Happening.completed?]

@[simp] theorem ended_map (jobs : List Job) : ended d (jobs.map .accepted) = [] := by
  simp [ended, jobsOf, Happening.ended?]

end History

/-- What the change of a worker's state shows. -/
def Worker.change : Worker → Worker → History
  | .idle, .taken job => [.taken job]
  | .taken job, .locking _ => [.asked job]
  | .locking job, .attempting .. => [.begun job]
  | .attempting job .., .idle => [.completed job]
  | .attempting job .., .crashed _ => [.lost job]
  | _, _ => []

/-! ## Others -/

/-- What others than the workers may do. -/
structure Outside (s t : Daemon) : Prop where
  workers : t.workers = s.workers
  locks : t.locks = s.locks
  line : ∃ jobs, t.queue.line = s.queue.line ++ jobs ∧ ∀ job ∈ jobs, job.validate = .ok ()

/-- The jobs that came into the line of the queue. -/
def Daemon.admitted (s t : Daemon) : List Job := t.queue.line.drop s.queue.line.length

theorem Daemon.admitted_eq {s t : Daemon} {jobs : List Job}
    (h : t.queue.line = s.queue.line ++ jobs) : admitted s t = jobs := by
  rw [admitted, h, List.drop_left]

/-- A run from a state, with its history: workers take steps, and others do what `may` allows. -/
inductive Run (may : Daemon → Daemon → Prop) (s₀ : Daemon) : History → Daemon → Prop
  | start : Run may s₀ [] s₀
  | worker {h : History} {s t : Daemon} {i : Nat} {w w' : Worker} (hrun : Run may s₀ h s)
    (hw : s.workers[i]? = some w) (hstep : s.stepWorker i = some t)
    (hw' : t.workers[i]? = some w') :
    Run may s₀ (h ++ ((Daemon.admitted s t).map .accepted ++ w.change w')) t
  | outside {h : History} {s t : Daemon} (hrun : Run may s₀ h s) (hout : Outside s t)
    (hmay : may s t) : Run may s₀ (h ++ (Daemon.admitted s t).map .accepted) t

/-- Lets workers take steps in turn, passing over those that cannot. -/
def follow (s : Daemon) : List Nat → History × Daemon
  | [] => ([], s)
  | i :: rest =>
    match s.workers[i]?, s.stepWorker i with
    | some w, some t =>
      match t.workers[i]? with
      | some w' =>
        let (h, u) := follow t rest
        ((Daemon.admitted s t).map .accepted ++ w.change w' ++ h, u)
      | none => follow s rest
    | _, _ => follow s rest

theorem Run.follow {may : Daemon → Daemon → Prop} {s₀ s : Daemon} {h : History}
    (hrun : Run may s₀ h s) (turns : List Nat) :
    Run may s₀ (h ++ (follow s turns).1) (follow s turns).2 := by
  induction turns generalizing h s with
  | nil => simpa [Orchestrator.follow] using hrun
  | cons i rest ih =>
    unfold Orchestrator.follow
    split
    · rename_i w t hw hstep
      split
      · rename_i w' hw'
        have later := ih (hrun.worker hw hstep hw')
        simpa using later
      · exact ih hrun
    · exact ih hrun

theorem Run.followed {may : Daemon → Daemon → Prop} (s₀ : Daemon) (turns : List Nat) :
    Run may s₀ (Orchestrator.follow s₀ turns).1 (Orchestrator.follow s₀ turns).2 := by
  simpa using Run.follow .start turns

namespace Queue

/-- Who waits longest is granted a free slot, or nothing happens. -/
theorem grant_cases (q : Queue) : q.grant = q ∨ ∃ ticket rest, q.waiting = ticket :: rest ∧
    q.hasSlot = true ∧ q.grant = { q with waiting := rest, granted := q.granted ++ [ticket] } := by
  unfold grant
  split
  · exact .inl rfl
  · rename_i ticket rest hwaiting
    split
    · rename_i hslot
      exact .inr ⟨ticket, rest, hwaiting, hslot, rfl⟩
    · exact .inl rfl

@[simp] theorem line_grant (q : Queue) : q.grant.line = q.line := by
  obtain h | ⟨_, _, -, -, h⟩ := q.grant_cases <;> rw [h]

@[simp] theorem line_join (q : Queue) (ticket : Ticket) : (q.join ticket).line = q.line :=
  line_grant _

@[simp] theorem line_leave (q : Queue) (ticket : Ticket) : (q.leave ticket).line = q.line :=
  line_grant _

@[simp] theorem line_fill (q : Queue) (ticket : Ticket) (job : Job) :
    (q.fill ticket job).line = q.line ++ [job] := rfl

/-- An offer puts at most a valid job into the line. -/
theorem line_offer (q : Queue) (job : Job) :
    ∃ jobs, (q.offer job).2.line = q.line ++ jobs ∧ ∀ job ∈ jobs, job.validate = .ok () := by
  unfold offer
  split
  · exact ⟨[], by simp⟩
  · rename_i hvalid
    split
    · exact ⟨[], by simp⟩
    · split
      · exact ⟨[job], rfl, by simpa using hvalid⟩
      · exact ⟨[], by simp⟩

/-- Who takes the first job of the line frees its slot. -/
theorem take?_cases {q q' : Queue} {job : Job} (h : q.take? = some (job, q')) :
    ∃ rest, q.line = job :: rest ∧ q' = grant { q with line := rest } := by
  unfold take? at h
  split at h
  · cases h
  · rename_i rest hline
    obtain ⟨rfl, rfl⟩ := Prod.mk.inj (Option.some.inj h)
    exact ⟨rest, hline, rfl⟩

/-- Taking a job out takes the first of the line. -/
theorem line_take? {q q' : Queue} {job : Job} (h : q.take? = some (job, q')) :
    q.line = job :: q'.line := by
  obtain ⟨rest, hline, rfl⟩ := take?_cases h
  rw [hline, line_grant]

end Queue

namespace Daemon

variable {s t : Daemon}

/-- The jobs of the producers that wait were found valid. -/
def Vetted (s : Daemon) : Prop := ∀ p ∈ s.producers, p.job.validate = .ok ()

theorem Outside.of_eq (hpool : t.pool = s.pool) (hlocks : t.locks = s.locks)
    (hline : t.queue.line = s.queue.line) : Outside s t :=
  ⟨by rw [workers, hpool]; rfl, hlocks, [], by simp [hline]⟩

/-- Whoever makes a request, at most a valid job is accepted. -/
theorem outside_serve (r : Request) (s : Daemon) :
    Outside s (s.serve r).2 ∧ (s.Vetted → (s.serve r).2.Vetted) := by
  cases r with
  | offer config attempts => exact ⟨⟨rfl, rfl, Queue.line_offer _ _⟩, id⟩
  | _ => exact ⟨Outside.of_eq rfl rfl rfl, id⟩

theorem outside_offer (s : Daemon) (job : Job) : Outside s (s.offer job).2 :=
  ⟨rfl, rfl, Queue.line_offer _ _⟩

theorem outside_withdraw (s : Daemon) (ticket : Ticket) (hs : s.Vetted) :
    Outside s (s.withdraw ticket) ∧ (s.withdraw ticket).Vetted :=
  ⟨Outside.of_eq rfl rfl (Queue.line_leave ..), fun p hp => hs p (List.mem_filter.1 hp).1⟩

theorem outside_enqueue (s : Daemon) (job : Job) (hs : s.Vetted) :
    Outside s (s.enqueue job).2.2 ∧ (s.enqueue job).2.2.Vetted := by
  unfold enqueue Queue.enqueue
  cases hvalid : job.validate with
  | error e => exact ⟨Outside.of_eq rfl rfl rfl, hs⟩
  | ok _ =>
    dsimp only
    split
    · rename_i hsplit
      split at hsplit
      · obtain ⟨-, rfl⟩ := Prod.mk.inj hsplit
        exact ⟨Outside.of_eq rfl rfl rfl, hs⟩
      · split at hsplit <;> cases (Prod.mk.inj hsplit).1
    · rename_i hsplit
      split at hsplit
      · cases (Prod.mk.inj hsplit).1
      · obtain ⟨-, rfl⟩ := Prod.mk.inj hsplit
        exact ⟨⟨rfl, rfl, [job], by simp, by simpa using hvalid⟩, hs⟩
    · rename_i hsplit
      split at hsplit
      · cases (Prod.mk.inj hsplit).1
      · obtain ⟨-, rfl⟩ := Prod.mk.inj hsplit
        refine ⟨Outside.of_eq rfl rfl (Queue.line_join ..), fun p hp => ?_⟩
        rcases List.mem_append.1 hp with hp | hp
        · exact hs p hp
        · obtain rfl := List.mem_singleton.1 hp
          exact hvalid

theorem outside_stepProducer {ticket : Ticket} (hs : s.Vetted) (h : s.stepProducer ticket = some t) :
    Outside s t ∧ t.Vetted := by
  unfold stepProducer at h
  obtain ⟨p, hp, h⟩ := Option.bind_eq_some_iff.1 h
  have hvalid : p.job.validate = .ok () := hs p (List.mem_of_find?_eq_some hp)
  have rest : ∀ p ∈ s.producers.filter fun p => p.ticket ≠ ticket, p.job.validate = .ok () :=
    fun p hp => hs p (List.mem_filter.1 hp).1
  dsimp only at h
  split at h
  · cases h
  · obtain rfl := Option.some.inj h
    exact ⟨⟨rfl, rfl, [p.job], rfl, by simpa using hvalid⟩, rest⟩
  · obtain rfl := Option.some.inj h
    exact ⟨Outside.of_eq rfl rfl rfl, rest⟩

theorem outside_stepWatcher (hs : s.Vetted) (h : s.stepWatcher = some t) :
    Outside s t ∧ t.Vetted := by
  unfold stepWatcher at h
  obtain ⟨watch, -, h⟩ := Option.bind_eq_some_iff.1 h
  dsimp only at h
  have kept : ∀ w : Watch, Outside s { s with watch := some w } ∧
      Vetted { s with watch := some w } := fun w => ⟨Outside.of_eq rfl rfl rfl, hs⟩
  split at h
  · split at h
    · obtain rfl := Option.some.inj h
      exact kept _
    · obtain rfl := Option.some.inj h
      exact kept _
  · obtain rfl := Option.some.inj h
    exact kept _
  · rename_i r next _
    obtain rfl := Option.some.inj h
    obtain ⟨hout, hvetted⟩ := outside_serve r s
    exact ⟨⟨hout.workers, hout.locks, hout.line⟩, hvetted hs⟩
  · split at h
    · obtain rfl := Option.some.inj h
      exact kept _
    · split at h
      · obtain rfl := Option.some.inj h
        exact kept _
      · cases h
  · cases h

theorem outside_stepSocket {i : Nat} (hs : s.Vetted) (h : s.stepSocket i = some t) :
    Outside s t ∧ t.Vetted := by
  unfold stepSocket at h
  obtain ⟨socket, -, h⟩ := Option.bind_eq_some_iff.1 h
  split at h
  · cases h
  · obtain ⟨wake, -, h⟩ := Option.bind_eq_some_iff.1 h
    have consumed : (s.consume i socket wake).pool = s.pool ∧
        (s.consume i socket wake).locks = s.locks ∧ (s.consume i socket wake).queue = s.queue ∧
        (s.consume i socket wake).producers = s.producers := by
      cases wake <;> exact ⟨rfl, rfl, rfl, rfl⟩
    obtain ⟨hpool, hlocks, hqueue, hproducers⟩ := consumed
    have kept : ∀ u : Daemon, u.pool = (s.consume i socket wake).pool →
        u.locks = (s.consume i socket wake).locks → u.queue = (s.consume i socket wake).queue →
        u.producers = (s.consume i socket wake).producers → Outside s u ∧ u.Vetted := by
      intro u hu₁ hu₂ hu₃ hu₄
      refine ⟨Outside.of_eq (hu₁.trans hpool) (hu₂.trans hlocks) (by rw [hu₃, hqueue]), ?_⟩
      unfold Vetted
      rw [hu₄, hproducers]
      exact hs
    obtain rfl := Option.some.inj h
    split
    · exact kept _ rfl rfl rfl rfl
    · exact kept _ rfl rfl rfl rfl

/-- A worker takes the first job of the line, or the line grows. -/
theorem WorkerStep.line {pool : Pool} {i : Nat} {w w' : Worker} (h : WorkerStep s pool i w w' t) :
    (∃ job, w = .idle ∧ w' = .taken job ∧ s.queue.line = job :: t.queue.line) ∨
    (History.taken (w.change w') = [] ∧ ∃ jobs, t.queue.line = s.queue.line ++ jobs ∧
      ∀ job ∈ jobs, job.validate = .ok ()) := by
  have kept : ∃ jobs, s.queue.line = s.queue.line ++ jobs ∧ ∀ job ∈ jobs, job.validate = .ok () :=
    ⟨[], by simp⟩
  cases h with
  | @take job queue htake => exact .inl ⟨job, rfl, rfl, Queue.line_take? htake⟩
  | @ask _ _ r _ _ => exact .inr ⟨rfl, (outside_serve r s).1.line⟩
  | _ => exact .inr ⟨rfl, kept⟩

/-- All that those who are no workers do on their own is outside. -/
theorem outside_step? {a : Actor} (ha : ∀ i, a ≠ .worker i) (hs : s.Vetted)
    (h : s.step? a = some t) : Outside s t ∧ t.Vetted := by
  cases a with
  | worker i => exact absurd rfl (ha i)
  | producer ticket => exact outside_stepProducer hs h
  | watcher => exact outside_stepWatcher hs h
  | socket i => exact outside_stepSocket hs h
  | delivery i =>
    obtain ⟨hub, -, rfl⟩ := Option.map_eq_some_iff.1 h
    exact ⟨Outside.of_eq rfl rfl rfl, hs⟩

end Daemon

end Orchestrator
