import Orchestrator.Proofs.Scene.Conservation

/-!
# Counts of jobs in flight

A job is counted when its producer has a slot or asks for one without waiting, and until it is finished
or its producer has to take the count back. In every scene the count of a deployment is the number of
its jobs that wait in the line, are held by workers, or belong to submissions that are midway between
their count and the line: `Accounts`, which every change keeps. The main statement is `accounted`.
-/
namespace Orchestrator

open Daemon

/-! ## The map of counts -/

namespace InFlight

variable {f : InFlight}

/-- Only positive counts are kept. -/
def Positive (f : InFlight) : Prop := ∀ scope, f.counts.find? scope ≠ some 0

theorem Positive.acquire (h : f.Positive) (scope : String) : (f.acquire scope).Positive := by
  intro scope'
  rw [InFlight.acquire, SortedMap.find?_insert]
  split
  · simp
  · exact h scope'

theorem Positive.release (h : f.Positive) (scope : String) : (f.release scope).Positive := by
  intro scope'
  unfold InFlight.release
  split
  · rw [SortedMap.find?_erase]
    split
    · simp
    · exact h scope'
  · rw [SortedMap.find?_erase]
    split
    · simp
    · exact h scope'
  · rw [SortedMap.find?_insert]
    split
    · simp
    · exact h scope'

/-- A deployment is in the map exactly while its count is positive. -/
theorem Positive.contains_iff (h : f.Positive) (scope : String) :
    f.contains scope = true ↔ 0 < f.count scope := by
  have positive := h scope
  unfold contains SortedMap.contains count
  cases hfound : f.counts.find? scope with
  | none => simp
  | some n =>
    rw [hfound] at positive
    simp only [Option.isSome_some, Option.getD_some, true_iff]
    exact Nat.pos_of_ne_zero fun hzero => positive (congrArg some hzero)

end InFlight

namespace Queue

@[simp] theorem inFlight_grant (q : Queue) : q.grant.inFlight = q.inFlight := by
  obtain h | ⟨_, _, -, -, h⟩ := q.grant_cases <;> rw [h]

@[simp] theorem inFlight_leave (q : Queue) (ticket : Ticket) :
    (q.leave ticket).inFlight = q.inFlight :=
  inFlight_grant _

theorem inFlight_take? {q q' : Queue} {job : Job} (h : q.take? = some (job, q')) :
    q'.inFlight = q.inFlight := by
  obtain ⟨rest, -, rfl⟩ := take?_cases h
  exact inFlight_grant _

end Queue

/-! ## Jobs of a deployment -/

/-- The keys of jobs of a deployment. -/
def inScope (ns : String) (key : Uuid × String) : Bool := key.2 = ns

section Tally

variable {ns : String} {job : Job} {jobs : List Job}

theorem length_jobsOf : (jobsOf ns jobs).length = tally (inScope ns) jobs :=
  List.countP_eq_length_filter.symm

theorem tally_inScope : tally (inScope ns) [job] = if ns = job.scope then 1 else 0 := by
  by_cases h : ns = job.scope
  · simp [tally, inScope, Job.key, h]
  · simp [tally, inScope, Job.key, h, Ne.symm h]

theorem tally_pos_iff : 0 < tally (inScope ns) jobs ↔ ∃ job ∈ jobs, job.scope = ns := by
  rw [tally, List.countP_pos_iff]
  constructor
  · rintro ⟨job, hjob, h⟩
    exact ⟨job, hjob, of_decide_eq_true h⟩
  · rintro ⟨job, hjob, h⟩
    exact ⟨job, hjob, decide_eq_true h⟩

theorem InFlight.count_acquire_job (f : InFlight) (job : Job) (ns : String) :
    (f.acquire job.scope).count ns = f.count ns + tally (inScope ns) [job] := by
  rw [count_acquire, tally_inScope]

theorem InFlight.count_release_job (f : InFlight) (job : Job) (ns : String) :
    (f.release job.scope).count ns = f.count ns - tally (inScope ns) [job] := by
  rw [count_release, tally_inScope]

end Tally

/-- The job, if its producer does not wait for a slot and was not turned away. -/
def Submission.counted? (c : Submission) : Option Job := c.accepted? <|> c.midway?

/-- A submission that is counted was accepted or is midway. -/
theorem tally_counted (p : Uuid × String → Bool) (calls : List Submission) :
    tally p (calls.filterMap Submission.counted?)
      = tally p (calls.filterMap Submission.accepted?) + tally p (calls.filterMap Submission.midway?) := by
  induction calls with
  | nil => rfl
  | cons c rest ih =>
    have first : tally p c.counted?.toList
        = tally p c.accepted?.toList + tally p c.midway?.toList := by
      obtain ⟨job, stage⟩ := c
      cases stage <;> simp [Submission.counted?, Submission.accepted?, Submission.midway?]
    simp only [tally_filterMap_cons]
    omega

namespace Scene

variable {s t : Scene} {pool : Pool}

/-- The jobs that are in flight. -/
def inFlight (s : Scene) : List Job := s.queue.line ++ s.held ++ s.midway

/-- The counts are those of the jobs in flight. -/
structure Accounts (s : Scene) : Prop where
  counts : ∀ ns, s.queue.inFlight.count ns = tally (inScope ns) s.inFlight
  positive : s.queue.inFlight.Positive

theorem accounts_opening (d : Daemon) (capacity : Nat) (p : Pool) :
    (opening d capacity p).Accounts :=
  ⟨fun _ => rfl, fun _ h => nomatch h⟩

theorem tally_inFlight (p : Uuid × String → Bool) :
    tally p s.inFlight = tally p s.queue.line + tally p s.held + tally p s.midway := by
  rw [inFlight, tally_append, tally_append]

/-- When a submission goes on, the jobs that are midway change by its own. -/
theorem tally_midway_set {ticket : Ticket} {c : Submission} (h : s.calls[ticket]? = some c)
    (c' : Submission) (p : Uuid × String → Bool) :
    tally p ((s.calls.set ticket c').filterMap Submission.midway?) + tally p c.midway?.toList
      = tally p s.midway + tally p c'.midway?.toList :=
  tally_filterMap_set h c'

/-- The counts after a submission has changed the queue, as the jobs in flight have changed. -/
theorem Accounts.progress_counts (hs : s.Accounts) (h : Progress s t) (ns : String) :
    t.queue.inFlight.count ns = tally (inScope ns) t.queue.line + tally (inScope ns) s.held
      + tally (inScope ns) t.midway := by
  have counts := hs.counts ns
  rw [tally_inFlight] at counts
  cases h with
  | refuse => simpa [midway, Submission.midway?, List.filterMap_cons] using counts
  | come => simpa [queue, Queue.join, midway, Submission.midway?, List.filterMap_cons] using counts
  | @offer job =>
    have acquired := s.queue.inFlight.count_acquire_job job ns
    simp only [midway, queue, Queue.count, Submission.midway?, List.filterMap_append, tally_append,
      List.filterMap_cons, List.filterMap_nil] at acquired counts ⊢
    omega
  | @count ticket job hcall _ =>
    have acquired := s.queue.inFlight.count_acquire_job job ns
    have set := tally_midway_set hcall ⟨job, .counted⟩ (inScope ns)
    simp only [midway, queue, proceed, Queue.count, Submission.midway?, Option.toList, tally_nil]
      at acquired set counts ⊢
    omega
  | @turnAway ticket job e hcall =>
    have set := tally_midway_set hcall ⟨job, .refused e⟩ (inScope ns)
    simp only [midway, queue, proceed, Submission.midway?, Option.toList, tally_nil] at set counts ⊢
    omega
  | @send ticket job hcall =>
    have set := tally_midway_set hcall ⟨job, .accepted⟩ (inScope ns)
    simp only [midway, queue, accept, proceed, Queue.send, Submission.midway?, Option.toList, tally_nil,
      tally_append] at set counts ⊢
    omega
  | @put ticket job hcall _ =>
    have set := tally_midway_set hcall ⟨job, .accepted⟩ (inScope ns)
    simp only [midway, queue, accept, proceed, Submission.midway?, Option.toList, tally_nil,
      tally_append] at set counts ⊢
    omega
  | @fail ticket job e hcall =>
    have set := tally_midway_set hcall ⟨job, .refusing e⟩ (inScope ns)
    simp only [midway, queue, proceed, Submission.midway?, Option.toList] at set counts ⊢
    omega
  | @takeBack ticket job e hcall =>
    have released := s.queue.inFlight.count_release_job job ns
    have set := tally_midway_set hcall ⟨job, .refused e⟩ (inScope ns)
    simp only [midway, queue, proceed, Queue.finish, Submission.midway?, Option.toList, tally_nil]
      at released set counts ⊢
    omega
  | @abandon ticket job hcall =>
    have set := tally_midway_set hcall ⟨job, .abandoned⟩ (inScope ns)
    simp only [midway, queue, proceed, Queue.line_leave, Queue.inFlight_leave, Submission.midway?,
      Option.toList, tally_nil] at set counts ⊢
    omega

theorem Accounts.progress (hs : s.Accounts) (h : Progress s t) : t.Accounts := by
  refine ⟨fun ns => ?_, ?_⟩
  · rw [tally_inFlight, held_of_workers h.sameWork.workers, hs.progress_counts h]
  · cases h with
    | come => simpa [queue, Queue.join] using hs.positive
    | abandon _ => simpa [queue, proceed] using hs.positive
    | offer => exact hs.positive.acquire _
    | count _ _ => exact hs.positive.acquire _
    | takeBack _ => exact hs.positive.release _
    | _ => exact hs.positive

/-- A job that is taken stays counted, and one that is finished is not any more. -/
theorem Accounts.worker {i : Nat} {w w' : Worker} {d : Daemon} (hs : s.Accounts) (tame : w.Tame)
    (hpool : s.daemon.pool = some pool) (hw : s.daemon.workers[i]? = some w)
    (hstep : WorkerStep s.daemon pool i w w' d) : Accounts (s.worked i w w' d) := by
  have held := fun ns => tally_held_worked hpool hw hstep (inScope ns)
  refine ⟨fun ns => ?_, ?_⟩
  · have counts := hs.counts ns
    have held := held ns
    rw [tally_inFlight] at counts ⊢
    change d.queue.inFlight.count ns = tally (inScope ns) d.queue.line
      + tally (inScope ns) (s.worked i w w' d).held + tally (inScope ns) s.midway
    cases hstep.effect tame with
    | take hheld hheld' _ hqueue _ =>
      rw [hheld, hheld'] at held
      rw [Queue.inFlight_take? hqueue]
      rw [queue, Queue.line_take? hqueue, tally_cons] at counts
      simp only [Option.toList, tally_nil] at held counts
      omega
    | @finish _ job' _ hheld hheld' _ hkey hqueue _ =>
      have released := s.queue.inFlight.count_release_job job' ns
      rw [tally_singleton hkey] at released
      rw [hheld, hheld'] at held
      rw [hqueue]
      simp only [queue, Queue.finish, Option.toList, tally_nil] at released held counts ⊢
      omega
    | keep hheld _ hqueue _ =>
      have same := tally_toList (p := inScope ns) hheld
      rw [hqueue]
      simp only [queue] at counts
      omega
  · change d.queue.inFlight.Positive
    cases hstep.effect tame with
    | take _ _ _ hqueue _ => exact Queue.inFlight_take? hqueue ▸ hs.positive
    | finish _ _ _ _ hqueue _ => exact hqueue ▸ hs.positive.release _
    | keep _ _ hqueue _ => exact hqueue ▸ hs.positive

theorem Accounts.change (hs : s.Accounts) (tame : ∀ w ∈ s.daemon.workers, w.Tame)
    (h : Change s t) : t.Accounts := by
  cases h with
  | progress h => exact hs.progress h
  | worker hpool hw hstep => exact hs.worker (tame _ (List.mem_of_getElem? hw)) hpool hw hstep
  | control hpool h =>
    have same := h.sameJobs
    refine ⟨fun ns => ?_, same.queue ▸ hs.positive⟩
    rw [inFlight, midway, same.queue, same.calls, held_of_control hpool h, hs.counts]
    rfl
  | look => exact ⟨hs.counts, hs.positive⟩
  | other d => exact ⟨hs.counts, hs.positive⟩

theorem accounts_run (d : Daemon) (capacity : Nat) (p : Pool) (moves : List Move) :
    ((opening d capacity p).run moves).Accounts :=
  (run_induction (P := fun s => s.Ledger ∧ s.Accounts)
    (fun _ _ ⟨ledger, hs⟩ h => ⟨ledger.change h, hs.change ledger.tame h⟩) (hasPool_opening ..)
    ⟨ledger_opening .., accounts_opening ..⟩ moves).2

/-- What the counts tell of a deployment. -/
structure Accounted (s : Scene) (ns : String) : Prop where
  /-- Its jobs in the line, in the hands of workers and of submissions midway are counted. -/
  counts : s.queue.inFlight.count ns = (jobsOf ns s.queue.line).length
    + (jobsOf ns s.running).length + (jobsOf ns s.midway).length
  /-- It is in flight exactly while there is such a job. -/
  contains : s.queue.inFlight.contains ns = true ↔
    ∃ job ∈ s.queue.line ++ s.running ++ s.midway, job.scope = ns
  /-- It is not kept without a count. -/
  kept : s.queue.inFlight.counts.find? ns ≠ some 0
  /-- What is still to be taken off a count was counted. -/
  covered : ∀ job ∈ s.running ++ s.midway, 0 < s.queue.inFlight.count job.scope
  /-- Submissions that were turned away have left the count as it was: it is that of the others, less
  the jobs that are finished. -/
  net : s.queue.inFlight.count ns + (jobsOf ns s.finished).length
    = (jobsOf ns (s.calls.filterMap Submission.counted?)).length

/-- The counts of jobs in flight are exact. -/
theorem accounted (d : Daemon) (capacity : Nat) (p : Pool) (hreturns : p.executor.Returns)
    (moves : List Move) (ns : String) : ((opening d capacity p).run moves).Accounted ns := by
  have ledger := ledger_run d capacity p moves
  have held := (returning_run d capacity hreturns moves).held_eq
  obtain ⟨counts, positive⟩ := accounts_run d capacity p moves
  generalize (opening d capacity p).run moves = s at ledger held counts positive
  have contains : ∀ ns, 0 < s.queue.inFlight.count ns ↔
      ∃ job ∈ s.queue.line ++ s.running ++ s.midway, job.scope = ns := fun ns => by
    rw [counts ns, tally_pos_iff, inFlight, held]
  refine ⟨?_, ?_, positive ns, fun job hjob => ?_, ?_⟩
  · simp only [length_jobsOf, counts ns, tally_inFlight, held]
  · rw [positive.contains_iff, contains]
  · rw [contains]
    exact ⟨job, List.append_assoc .. ▸ List.mem_append_right _ hjob, rfl⟩
  · have handed := ledger.handed (inScope ns)
    have admitted := ledger.admitted (inScope ns)
    rw [ledger.order, tally_append] at admitted
    rw [length_jobsOf, length_jobsOf, counts ns, tally_inFlight, tally_counted, admitted, midway]
    omega

/-- The worker is at the first job, the second is in the line, and the third is refused next. -/
theorem accounted_busy :
    let s := lone.run (launching ++ [.offer (numbered 1), .advance 0, .work 0, .offer (numbered 2),
      .advance 1, .offer (numbered 3)])
    s.Accounted "api" ∧ s.queue.inFlight.count "api" = 3 :=
  ⟨accounted {} 1 (.new 1) trivial _ "api", by decide +kernel⟩

end Scene

end Orchestrator
