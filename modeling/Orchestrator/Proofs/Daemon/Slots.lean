import Orchestrator.Daemon.Control
import Orchestrator.Daemon.Requests
import Orchestrator.Proofs.Daemon.History

/-!
# Slots of the queue

A queue in which nobody waits while a slot is free keeps that, whatever is done to it: a slot that
becomes free is granted at once to who waits longest. So it is in every state a daemon comes to
(`Reachable.orderly`), and who has to wait after having come found no slot (`Orderly.enqueue_waiting`).
-/
namespace Orchestrator

/-! ## Slots are not left free while somebody waits -/

namespace Queue

variable {q q' : Queue}

/-- Nobody waits while a slot is free. -/
def Orderly (q : Queue) : Prop := q.hasSlot = true → q.waiting = []

theorem orderly_new (capacity : Nat) : (new capacity).Orderly := fun _ => rfl

/-- A queue of which at most one slot is free grants it, or nobody waits. -/
theorem orderly_grant (h : q.waiting ≠ [] → q.capacity ≤ q.line.length + q.granted.length + 1) :
    q.grant.Orderly := by
  obtain hgrant | ⟨ticket, rest, hwaiting, -, hgrant⟩ := q.grant_cases
  · intro hslot
    rw [hgrant] at hslot ⊢
    cases hwaiting : q.waiting with
    | nil => rfl
    | cons ticket rest =>
      unfold grant at hgrant
      rw [hwaiting] at hgrant
      simp only [hslot, if_true] at hgrant
      have := congrArg Queue.waiting hgrant
      rw [hwaiting] at this
      exact absurd this (List.cons_ne_self _ _).symm
  · intro hslot
    have hfull := h (by rw [hwaiting]; exact List.cons_ne_nil _ _)
    rw [hgrant] at hslot
    simp only [hasSlot, decide_eq_true_eq, List.length_append, List.length_singleton] at hslot
    omega

theorem Orderly.slots (h : q.Orderly) (hwaiting : q.waiting ≠ []) :
    q.capacity ≤ q.line.length + q.granted.length := by
  by_contra hfree
  exact hwaiting (h (by simp only [hasSlot, decide_eq_true_eq]; omega))

/-- A queue in which no more is free than in an orderly one, and the same wait, is orderly. -/
theorem Orderly.of_le (h : q.Orderly) (hcapacity : q'.capacity = q.capacity)
    (hwaiting : q'.waiting = q.waiting)
    (htaken : q.line.length + q.granted.length ≤ q'.line.length + q'.granted.length) :
    q'.Orderly := by
  intro hslot
  rw [hwaiting]
  apply h
  simp only [hasSlot, decide_eq_true_eq] at hslot ⊢
  omega

theorem Orderly.offer (h : q.Orderly) (job : Job) : (q.offer job).2.Orderly := by
  unfold Queue.offer
  split
  · exact h
  · split
    · exact h
    · split
      · exact h.of_le rfl rfl (by simp [push])
      · exact h

theorem Orderly.fill (h : q.Orderly) (ticket : Ticket) (job : Job) : (q.fill ticket job).Orderly := by
  refine @Orderly.of_le q (q.fill ticket job) h rfl rfl ?_
  have := List.length_erase (a := ticket) (l := q.granted)
  simp only [Queue.fill, push, List.length_append, List.length_singleton]
  split at this <;> omega

theorem Orderly.join (h : q.Orderly) (ticket : Ticket) : (q.join ticket).Orderly := by
  by_cases hslot : q.hasSlot = true
  · -- nobody waited, so the slot goes to who has come
    have hwaiting := h hslot
    intro _
    unfold Queue.join grant
    simp only [hwaiting, List.nil_append]
    split
    · rfl
    · rename_i hno
      exact absurd hslot hno
  · apply orderly_grant
    intro _
    simp only [hasSlot, decide_eq_true_eq] at hslot
    simp only
    omega

theorem Orderly.leave (h : q.Orderly) (ticket : Ticket) : (q.leave ticket).Orderly := by
  apply orderly_grant
  intro hwaiting
  have hsome : q.waiting ≠ [] := by
    intro hnil
    simp [hnil] at hwaiting
  have := h.slots hsome
  have := List.length_erase (a := ticket) (l := q.granted)
  simp only
  split at this <;> omega

theorem Orderly.take? {job : Job} (h : q.Orderly) (htake : q.take? = some (job, q')) :
    q'.Orderly := by
  obtain ⟨rest, hline, rfl⟩ := take?_cases htake
  apply orderly_grant
  intro hwaiting
  have := h.slots hwaiting
  rw [hline, List.length_cons] at this
  simp only
  omega

theorem Orderly.close (q : Queue) : q.close.Orderly := fun _ => rfl

/-- Who waits after having come found no slot. -/
theorem Orderly.enqueue_waiting {ticket : Ticket} {job : Job} (h : q.Orderly)
    (hwaits : (q.enqueue ticket job).1 = .waiting) : q.hasSlot = false := by
  by_contra hslot
  have hslot : q.hasSlot = true := by simpa using hslot
  have hgranted : ticket ∈ (q.join ticket).granted := by
    have hnone := h hslot
    unfold Queue.join grant
    simp only [hnone, List.nil_append]
    split
    · simp
    · rename_i hno
      exact absurd hslot hno
  unfold Queue.enqueue at hwaits
  split at hwaits
  · cases hwaits
  · split at hwaits
    · cases hwaits
    · simp only [hgranted, if_true] at hwaits
      cases hwaits

/-- Who comes and waits stands at the end of those who wait, and nothing else is changed. -/
theorem Orderly.enqueue_waits {ticket : Ticket} {job : Job} (h : q.Orderly)
    (hwaits : q.enqueue ticket job = (.waiting, q')) :
    q' = { q with waiting := q.waiting ++ [ticket] } := by
  have hfull := h.enqueue_waiting (congrArg Prod.fst hwaits)
  unfold Queue.enqueue at hwaits
  split at hwaits
  · cases hwaits
  · split at hwaits
    · cases hwaits
    · rw [← (Prod.mk.inj hwaits).2]
      obtain hgrant | ⟨_, _, -, hslot, -⟩ := grant_cases { q with waiting := q.waiting ++ [ticket] }
      · exact hgrant
      · exact absurd (hslot.symm.trans hfull) (by decide)

/-- Who is refused has changed nothing. -/
theorem enqueue_refused {ticket : Ticket} {job : Job} {e : JobError}
    (h : q.enqueue ticket job = (.refused e, q')) : q' = q := by
  unfold enqueue at h
  split at h
  · exact (Prod.mk.inj h).2.symm
  · split at h
    · exact (Prod.mk.inj h).2.symm
    · have := (Prod.mk.inj h).1
      split at this <;> cases this

theorem Orderly.enqueue (h : q.Orderly) (ticket : Ticket) (job : Job) :
    (q.enqueue ticket job).2.Orderly := by
  unfold Queue.enqueue
  split
  · exact h
  · split
    · exact h
    · exact h.join ticket

end Queue

/-! ## Reachable states -/

namespace Daemon

open Queue Engine

variable {s t : Daemon}

theorem orderly_serve (h : s.queue.Orderly) (r : Request) : (s.serve r).2.queue.Orderly := by
  cases r with
  | offer config attempts => exact h.offer _
  | _ => exact h

theorem orderly_enqueue (h : s.queue.Orderly) (job : Job) : (s.enqueue job).2.2.queue.Orderly := by
  have hcame := h.enqueue s.nextTicket job
  unfold Daemon.enqueue
  dsimp only
  split
  · rename_i heq
    rw [heq] at hcame
    exact hcame
  · rename_i heq
    rw [heq] at hcame
    exact hcame.fill _ _
  · rename_i heq
    rw [heq] at hcame
    exact hcame

theorem orderly_stepProducer {ticket : Ticket} (h : s.queue.Orderly)
    (hstep : s.stepProducer ticket = some t) : t.queue.Orderly := by
  unfold stepProducer at hstep
  obtain ⟨producer, -, hstep⟩ := Option.bind_eq_some_iff.1 hstep
  dsimp only at hstep
  split at hstep
  · cases hstep
  · obtain rfl := Option.some.inj hstep
    exact h.fill _ _
  · obtain rfl := Option.some.inj hstep
    exact h

theorem orderly_stepWorker {i : Nat} (h : s.queue.Orderly) (hstep : s.stepWorker i = some t) :
    t.queue.Orderly := by
  obtain ⟨pool, w, w', -, -, hcases⟩ := stepWorker_cases hstep
  cases hcases with
  | take htake => exact h.take? htake
  | ask _ => exact orderly_serve h _
  | _ => exact h

theorem orderly_stepWatcher (h : s.queue.Orderly) (hstep : s.stepWatcher = some t) :
    t.queue.Orderly := by
  unfold stepWatcher at hstep
  obtain ⟨watch, -, hstep⟩ := Option.bind_eq_some_iff.1 hstep
  dsimp only at hstep
  split at hstep
  · split at hstep
    · obtain rfl := Option.some.inj hstep
      exact h
    · obtain rfl := Option.some.inj hstep
      exact h
  · obtain rfl := Option.some.inj hstep
    exact h
  · obtain rfl := Option.some.inj hstep
    exact orderly_serve h _
  · split at hstep
    · obtain rfl := Option.some.inj hstep
      exact h
    · split at hstep
      · obtain rfl := Option.some.inj hstep
        exact h
      · cases hstep
  · cases hstep

theorem queue_stepSocket {i : Nat} (hstep : s.stepSocket i = some t) : t.queue = s.queue := by
  unfold stepSocket at hstep
  obtain ⟨socket, -, hstep⟩ := Option.bind_eq_some_iff.1 hstep
  split at hstep
  · cases hstep
  · obtain ⟨wake, -, hstep⟩ := Option.bind_eq_some_iff.1 hstep
    have hconsume : (s.consume i socket wake).queue = s.queue := by cases wake <;> rfl
    obtain rfl := Option.some.inj hstep
    split <;> exact hconsume

theorem orderly_step? {a : Actor} (h : s.queue.Orderly) (hstep : s.step? a = some t) :
    t.queue.Orderly := by
  cases a with
  | producer ticket => exact orderly_stepProducer h hstep
  | worker i => exact orderly_stepWorker h hstep
  | watcher => exact orderly_stepWatcher h hstep
  | socket i =>
    rw [queue_stepSocket hstep]
    exact h
  | delivery i =>
    obtain ⟨hub, -, rfl⟩ := Option.map_eq_some_iff.1 hstep
    exact h

/-- How the daemon is asked for containers when it lists those of a deployment. -/
theorem perform_listOwned (s : Daemon) (name : String) :
    s.perform (Fleet.listOwned name).run
      = ((s.serve (.engine (.list Container.ownerLabel name))).1.mapError (Failure.map .engine),
          (s.serve (.engine (.list Container.ownerLabel name))).2) := rfl

theorem orderly_queueJob (h : s.queue.Orderly) (job : Job) : (s.queueJob job).2.queue.Orderly := by
  have hcame := orderly_enqueue h job
  unfold queueJob
  split
  · rename_i heq
    rw [heq] at hcame
    exact hcame
  · rename_i heq
    rw [heq] at hcame
    exact hcame

theorem orderly_listForRequest (h : s.queue.Orderly) (name : String)
    {answer : List Container → Daemon → Served × Daemon}
    (hanswer : ∀ containers (t : Daemon), t.queue.Orderly → (answer containers t).2.queue.Orderly) :
    (s.listForRequest name answer).2.queue.Orderly := by
  have hserved := orderly_serve h (.engine (.list Container.ownerLabel name))
  unfold listForRequest
  rw [perform_listOwned]
  split
  · rename_i heq
    obtain ⟨-, rfl⟩ := Prod.mk.inj heq
    exact hanswer _ _ hserved
  · rename_i heq
    obtain ⟨-, rfl⟩ := Prod.mk.inj heq
    exact hserved
  · rename_i heq
    obtain ⟨-, rfl⟩ := Prod.mk.inj heq
    exact hserved

/-- A job is made without a look at the queue. -/
theorem orderly_newJob (h : s.queue.Orderly) (scope : String) (work : Work) (attempts : UInt32) :
    (s.newJob scope work attempts).2.queue.Orderly := h

theorem orderly_carryOut (h : s.queue.Orderly) (plan : Api.Plan) :
    (s.carryOut plan).2.queue.Orderly := by
  cases plan with
  | reply response => exact h
  | queue kind config =>
    cases kind with
    | create => exact orderly_queueJob (orderly_newJob h config.name (.create config [] []) s.apiAttempts) _
    | delete => exact orderly_queueJob (orderly_newJob h config.name (.delete config []) s.apiAttempts) _
  | tearDownOrphans name =>
    apply orderly_listForRequest h
    intro containers t ht
    dsimp only
    split
    · exact ht
    · exact orderly_queueJob (orderly_newJob ht _ (.delete (Deployment.new name "") []) t.apiAttempts) _
  | containers name => exact orderly_listForRequest h name fun _ _ ht => ht
  | follow name => exact h
  | panic => exact h

theorem orderly_request (h : s.queue.Orderly) (r : Http.Request) : (s.request r).2.queue.Orderly := by
  have hcarried := orderly_carryOut
    (s := { s.stamp.2 with store := (Api.plan s.stamp.1 r s.stamp.2.store).2 }) h
    (Api.plan s.stamp.1 r s.stamp.2.store).1
  unfold request
  dsimp only
  split
  · exact hcarried
  · exact hcarried

/-- The states that a daemon comes to: it starts with an empty queue; its actors take steps, requests
come and are given up, jobs are brought to the queue from inside, and the queue is closed, in any order;
and whatever does not touch the queue may change at any time. -/
inductive Reachable : Daemon → Prop where
  | opening {s : Daemon} (capacity : Nat) (h : s.queue = Queue.new capacity) : Reachable s
  | act {s t : Daemon} (hs : Reachable s) (a : Actor) (h : s.step? a = some t) : Reachable t
  | request {s : Daemon} (hs : Reachable s) (r : Http.Request) : Reachable (s.request r).2
  | withdraw {s : Daemon} (hs : Reachable s) (ticket : Ticket) : Reachable (s.withdraw ticket)
  | enqueue {s : Daemon} (hs : Reachable s) (job : Job) : Reachable (s.enqueue job).2.2
  | offer {s : Daemon} (hs : Reachable s) (job : Job) : Reachable (s.offer job).2
  | close {s : Daemon} (hs : Reachable s) : Reachable s.closeQueue
  | aside {s t : Daemon} (hs : Reachable s) (h : t.queue = s.queue) : Reachable t

theorem Reachable.orderly (h : Reachable s) : s.queue.Orderly := by
  induction h with
  | opening capacity h =>
    rw [h]
    exact orderly_new capacity
  | act _ a h ih => exact orderly_step? ih h
  | request _ r ih => exact orderly_request ih r
  | withdraw _ ticket ih => exact ih.leave ticket
  | enqueue _ job ih => exact orderly_enqueue ih job
  | offer _ job ih => exact ih.offer job
  | close _ _ => exact Orderly.close _
  | aside _ h ih =>
    rw [h]
    exact ih

end Daemon

end Orchestrator
