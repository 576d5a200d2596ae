import Orchestrator.Proofs.Scene.Stopping

/-!
# No job is lost, and none is run twice

However producers, workers and whoever stops them meet, every job that was accepted is in exactly one
place: it waits in the line, a worker is at it, or it is finished; and a job that was turned away is in
none. The line keeps its bound, since who puts a job into it has a slot (`Slotted`). The main statement
is `conserved`.
-/
namespace Orchestrator

open Daemon

/-! ## Slots -/

namespace Queue

variable {q q' : Queue}

/-- The jobs in the line and the producers that were granted a slot have one each. -/
def Fits (q : Queue) : Prop := q.line.length + q.granted.length ≤ q.capacity

theorem capacity_grant (q : Queue) : q.grant.capacity = q.capacity := by
  obtain h | ⟨_, _, -, -, h⟩ := q.grant_cases <;> rw [h]

theorem mem_granted_grant {ticket : Ticket} (h : ticket ∈ q.granted) : ticket ∈ q.grant.granted := by
  obtain hgrant | ⟨_, _, -, -, hgrant⟩ := q.grant_cases
  · rwa [hgrant]
  · rw [hgrant]
    exact List.mem_append_left _ h

theorem Fits.grant (h : q.Fits) : q.grant.Fits := by
  obtain hgrant | ⟨_, _, -, hslot, hgrant⟩ := q.grant_cases
  · rwa [hgrant]
  · rw [hgrant]
    simp only [hasSlot, decide_eq_true_eq] at hslot
    simp only [Fits, List.length_append, List.length_singleton]
    omega

theorem Fits.join (h : q.Fits) (ticket : Ticket) : (q.join ticket).Fits := Fits.grant h

theorem Fits.leave (h : q.Fits) (ticket : Ticket) : (q.leave ticket).Fits := by
  refine Fits.grant ?_
  have := List.length_erase_le (a := ticket) (l := q.granted)
  simp only [Fits] at h ⊢
  omega

theorem Fits.send {ticket : Ticket} (h : q.Fits) (hticket : ticket ∈ q.granted) (job : Job) :
    (q.send ticket job).Fits := by
  have := List.length_erase_of_mem hticket
  have := List.length_pos_of_mem hticket
  simp only [Fits, Queue.send, List.length_append, List.length_singleton] at h ⊢
  omega

theorem Fits.take? {job : Job} (h : q.Fits) (htake : q.take? = some (job, q')) : q'.Fits := by
  obtain ⟨rest, hline, rfl⟩ := take?_cases htake
  refine Fits.grant ?_
  simp only [Fits, hline, List.length_cons] at h ⊢
  omega

theorem capacity_take? {job : Job} (htake : q.take? = some (job, q')) : q'.capacity = q.capacity := by
  obtain ⟨rest, -, rfl⟩ := take?_cases htake
  exact capacity_grant _

theorem mem_granted_take? {job : Job} {ticket : Ticket} (htake : q.take? = some (job, q'))
    (h : ticket ∈ q.granted) : ticket ∈ q'.granted := by
  obtain ⟨rest, -, rfl⟩ := take?_cases htake
  exact mem_granted_grant h

end Queue

namespace Submission

variable {c : Submission}

theorem accepted?_eq_some {job : Job} : c.accepted? = some job ↔ c.stage = .accepted ∧ c.job = job := by
  obtain ⟨job', stage⟩ := c
  cases stage <;> simp [accepted?]

theorem stage_of_answer? {id : Uuid} (h : c.answer? = some (.ok id)) : c.stage = .accepted := by
  obtain ⟨job, stage⟩ := c
  cases stage <;> simp_all [answer?]

theorem stage_of_isTurnedAway (h : c.isTurnedAway = true) : c.stage ≠ .accepted := by
  obtain ⟨job, stage⟩ := c
  cases stage <;> simp_all [isTurnedAway]

theorem accepted_sublist (calls : List Submission) :
    ((calls.filterMap accepted?).map Job.id).Sublist (calls.map fun c => c.job.id) := by
  induction calls with
  | nil => exact .slnil
  | cons c rest ih =>
    rw [List.filterMap_cons]
    cases hc : c.accepted? with
    | none => exact ih.cons _
    | some job =>
      obtain ⟨-, rfl⟩ := accepted?_eq_some.1 hc
      exact ih.cons_cons _

end Submission

namespace Scene

variable {s t : Scene} {pool : Pool} {capacity : Nat}

/-- Whoever puts a job into the line has a slot. -/
structure Slotted (capacity : Nat) (s : Scene) : Prop where
  capacity : s.queue.capacity = max capacity 1
  fits : s.queue.Fits
  /-- A producer that has counted its job was granted a slot. -/
  counted : ∀ ticket job, s.calls[ticket]? = some ⟨job, .counted⟩ → ticket ∈ s.queue.granted

theorem slotted_opening (d : Daemon) (capacity : Nat) (p : Pool) :
    (opening d capacity p).Slotted capacity :=
  ⟨rfl, Nat.zero_le _, fun _ _ h => nomatch h⟩

/-- The submission that is counted after another came was so before. -/
theorem counted_of_append {calls : List Submission} {c : Submission} {ticket : Ticket} {job : Job}
    (h : (calls ++ [c])[ticket]? = some ⟨job, .counted⟩) (hc : c.stage ≠ .counted) :
    calls[ticket]? = some ⟨job, .counted⟩ := by
  rw [List.getElem?_append] at h
  split at h
  · exact h
  · obtain rfl := List.mem_singleton.1 (List.mem_of_getElem? h)
    exact absurd rfl hc

/-- The submission that is counted after another went on was so before. -/
theorem counted_of_set {calls : List Submission} {c : Submission} {ticket ticket' : Ticket} {job : Job}
    (h : (calls.set ticket' c)[ticket]? = some ⟨job, .counted⟩) (hc : c.stage ≠ .counted) :
    ticket ≠ ticket' ∧ calls[ticket]? = some ⟨job, .counted⟩ := by
  rw [List.getElem?_set] at h
  split at h
  · split at h
    · obtain rfl := Option.some.inj h
      exact absurd rfl hc
    · cases h
  · rename_i hne
    exact ⟨Ne.symm hne, h⟩

theorem Slotted.progress (hs : s.Slotted capacity) (h : Progress s t) : t.Slotted capacity := by
  have fits := hs.fits
  cases h with
  | refuse =>
    exact ⟨hs.capacity, fits, fun _ _ h => hs.counted _ _ (counted_of_append h (by simp))⟩
  | come =>
    refine ⟨(Queue.capacity_grant _).trans hs.capacity, fits.join _, fun _ _ h => ?_⟩
    exact Queue.mem_granted_grant (hs.counted _ _ (counted_of_append h (by simp)))
  | offer =>
    exact ⟨hs.capacity, fits, fun _ _ h => hs.counted _ _ (counted_of_append h (by simp))⟩
  | @count ticket job hcall hgranted =>
    refine ⟨hs.capacity, fits, fun ticket' job' h => ?_⟩
    by_cases hticket : ticket = ticket'
    · exact hticket ▸ hgranted
    · exact hs.counted ticket' job' ((List.getElem?_set_ne hticket).symm.trans h)
  | send hcall =>
    refine ⟨hs.capacity, fits.send (hs.counted _ _ hcall) _, fun _ _ h => ?_⟩
    obtain ⟨hne, h⟩ := counted_of_set h (by simp)
    exact (List.mem_erase_of_ne hne).2 (hs.counted _ _ h)
  | put _ hslot =>
    refine ⟨hs.capacity, ?_, fun _ _ h => hs.counted _ _ (counted_of_set h (by simp)).2⟩
    simp only [Queue.hasSlot, decide_eq_true_eq] at hslot
    simp only [Queue.Fits, accept, proceed, List.length_append, List.length_singleton]
    omega
  | turnAway _ => exact ⟨hs.capacity, fits, fun _ _ h => hs.counted _ _ (counted_of_set h (by simp)).2⟩
  | fail _ => exact ⟨hs.capacity, fits, fun _ _ h => hs.counted _ _ (counted_of_set h (by simp)).2⟩
  | takeBack _ => exact ⟨hs.capacity, fits, fun _ _ h => hs.counted _ _ (counted_of_set h (by simp)).2⟩
  | abandon _ =>
    refine ⟨(Queue.capacity_grant _).trans hs.capacity, fits.leave _, fun _ _ h => ?_⟩
    obtain ⟨hne, h⟩ := counted_of_set h (by simp)
    exact Queue.mem_granted_grant ((List.mem_erase_of_ne hne).2 (hs.counted _ _ h))

theorem Slotted.of_queue {q : Queue} (h : t.queue = q) (capacity_eq : q.capacity = max capacity 1)
    (fits : q.Fits) (counted : ∀ ticket job, t.calls[ticket]? = some ⟨job, .counted⟩ →
      ticket ∈ q.granted) : t.Slotted capacity := by
  subst h
  exact ⟨capacity_eq, fits, counted⟩

theorem Slotted.change (hs : s.Slotted capacity) (tame : ∀ w ∈ s.daemon.workers, w.Tame)
    (h : Change s t) : t.Slotted capacity := by
  cases h with
  | progress h => exact hs.progress h
  | worker hpool hw hstep =>
    cases hstep.effect (tame _ (List.mem_of_getElem? hw)) with
    | take _ _ _ hqueue _ =>
      exact ⟨(Queue.capacity_take? hqueue).trans hs.capacity, hs.fits.take? hqueue,
        fun _ _ h => Queue.mem_granted_take? hqueue (hs.counted _ _ h)⟩
    | finish _ _ _ _ hqueue _ => exact Slotted.of_queue hqueue hs.capacity hs.fits hs.counted
    | keep _ _ hqueue _ => exact Slotted.of_queue hqueue hs.capacity hs.fits hs.counted
  | control hpool h =>
    have same := h.sameJobs
    exact Slotted.of_queue same.queue hs.capacity hs.fits (same.calls ▸ hs.counted)
  | look => exact ⟨hs.capacity, hs.fits, hs.counted⟩
  | other d => exact ⟨hs.capacity, hs.fits, hs.counted⟩

theorem slotted_run (d : Daemon) (capacity : Nat) (p : Pool) (moves : List Move) :
    ((opening d capacity p).run moves).Slotted capacity :=
  (run_induction (P := fun s => s.Ledger ∧ s.Slotted capacity)
    (fun _ _ ⟨ledger, hs⟩ h => ⟨ledger.change h, hs.change ledger.tame h⟩) (hasPool_opening ..)
    ⟨ledger_opening .., slotted_opening ..⟩ moves).2

/-! ## Places -/

/-- The jobs in the line, in the hands of workers, and finished. -/
def places (s : Scene) : List Job := s.queue.line ++ s.running ++ s.finished

/-- No two submissions are of one job. -/
def Distinct (s : Scene) : Prop := (s.calls.map fun c => c.job.id).Nodup

/-- Every job is in one place if its producer was told so, and in none otherwise. -/
structure Conserved (capacity : Nat) (s : Scene) : Prop where
  perm : ((s.calls.filterMap Submission.accepted?).map Job.key).Perm (s.places.map Job.key)
  accepted : s.Distinct → ∀ c ∈ s.calls, c.answer? = some (.ok c.job.id) →
    (s.places.map Job.id).count c.job.id = 1
  turnedAway : s.Distinct → ∀ c ∈ s.calls, c.isTurnedAway = true →
    (s.places.map Job.id).count c.job.id = 0
  bounded : s.queue.line.length ≤ max capacity 1
  /-- Jobs leave the line in the order in which they were accepted. -/
  in_order : s.accepted = s.taken ++ s.queue.line

/-- The identifiers in places are those of the accepted submissions. -/
theorem Ledger.perm_ids (hs : s.Ledger) (hreturning : s.Returning) :
    ((s.calls.filterMap Submission.accepted?).map Job.id).Perm (s.places.map Job.id) := by
  have := hs.perm.map Prod.fst
  simpa [places, hreturning.held_eq, Job.key, Function.comp_def] using this

/-- Among distinct submissions each one is accepted once or not at all. -/
theorem count_accepted (hdistinct : s.Distinct) {c : Submission} (hc : c ∈ s.calls) :
    ((s.calls.filterMap Submission.accepted?).map Job.id).count c.job.id
      = if c.stage = .accepted then 1 else 0 := by
  have hnodup := hdistinct.sublist (Submission.accepted_sublist s.calls)
  have hmem : c.job.id ∈ (s.calls.filterMap Submission.accepted?).map Job.id ↔ c.stage = .accepted := by
    constructor
    · intro h
      obtain ⟨job, hjob, hid⟩ := List.mem_map.1 h
      obtain ⟨c', hc', haccepted⟩ := List.mem_filterMap.1 hjob
      obtain ⟨hstage, rfl⟩ := Submission.accepted?_eq_some.1 haccepted
      rwa [← List.inj_on_of_nodup_map hdistinct hc' hc hid]
    · intro h
      exact List.mem_map_of_mem (List.mem_filterMap.2 ⟨c, hc, Submission.accepted?_eq_some.2 ⟨h, rfl⟩⟩)
  rw [hnodup.count]
  simp only [hmem]

theorem Conserved.of_ledger (ledger : s.Ledger) (returning : s.Returning)
    (slotted : s.Slotted capacity) : s.Conserved capacity := by
  have count : s.Distinct → ∀ c ∈ s.calls, (s.places.map Job.id).count c.job.id
      = if c.stage = .accepted then 1 else 0 := fun hdistinct c hc =>
    ((ledger.perm_ids returning).count_eq _).symm.trans (count_accepted hdistinct hc)
  refine ⟨?_, fun hdistinct c hc h => ?_, fun hdistinct c hc h => ?_, ?_, ledger.order⟩
  · rw [places, ← returning.held_eq]
    exact ledger.perm
  · rw [count hdistinct c hc, if_pos (Submission.stage_of_answer? h)]
  · rw [count hdistinct c hc, if_neg (Submission.stage_of_isTurnedAway h)]
  · have fits := slotted.fits
    rw [Queue.Fits, slotted.capacity] at fits
    omega

/-- No job is lost, and none is run twice; and when a single call that came after the start has returned
from stopping the workers, none of them is at a job. -/
theorem conserved (d : Daemon) (capacity : Nat) (p : Pool) (hreturns : p.executor.Returns)
    (moves : List Move) :
    ((opening d capacity p).run moves).Conserved capacity ∧
    ∀ later, ((opening d capacity p).run moves).launch = .returned →
      ((opening d capacity p).run moves).stops = [] →
      ∀ took, ((opening d capacity p).run (moves ++ later)).stops = [.returned took] →
        ((opening d capacity p).run (moves ++ later)).running = [] ∧
        ∀ evenLater, ((opening d capacity p).run (moves ++ later ++ evenLater)).taken
          = ((opening d capacity p).run (moves ++ later)).taken := by
  refine ⟨.of_ledger (ledger_run ..) (returning_run _ _ hreturns _) (slotted_run ..), ?_⟩
  intro later hlaunch hnone took hstops
  have settled := settled_of_single d capacity p moves later hlaunch hnone hstops
  refine ⟨settled.running, fun evenLater => ?_⟩
  rw [run_append]
  exact (settled.run evenLater).2

/-- A job for a deployment. -/
def numbered (n : Nat) : Job := .create ⟨BitVec.ofNat 128 n⟩ .epoch (.new "api" "nginx") 1

/-- The first job is queued, the second waits for a slot, the third is refused, and the worker takes the
first; the second goes away from the slot it is granted, which the fourth gets. -/
def crowded : List Move :=
  [.offer (numbered 1), .advance 0, .come (numbered 2), .offer (numbered 3), .advance 2, .advance 2,
    .work 0, .abandon 1, .come (numbered 4), .advance 3, .advance 3]

/-- The worker is told to end, finishes its job and ends. -/
def leaving : List Move := [.stop, .drain 0, .work 0, .work 0, .work 0, .work 0, .join 0, .join 0]

theorem conserved_crowded :
    let s := (opening {} 1 { Pool.new 1 with executor := .scripted ∅ }).run
      (launching ++ (crowded ++ leaving))
    s.Conserved 1 ∧ s.running = [] ∧ s.queue.line = [numbered 4] ∧
      s.finished.map Job.id = [(numbered 1).id] := by
  have hreturns : (Executor.scripted ∅).Returns := fun _ _ h => nomatch h
  have main := conserved {} 1 { Pool.new 1 with executor := .scripted ∅ } hreturns
  exact ⟨(main _).1,
    ((main launching).2 (crowded ++ leaving) (by decide +kernel) (by decide +kernel) [0]
      (by decide +kernel)).1, by decide +kernel, by decide +kernel⟩

end Scene

end Orchestrator
