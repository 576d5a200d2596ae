import Orchestrator.Proofs.Daemon.Order
import Orchestrator.Proofs.Scene.Accounting

/-!
# Jobs in flight along a run

While nobody but the workers and the acceptance of jobs changes the counts of jobs in flight, they are
those of the jobs in the line and in the hands of workers (`Counted`). Every job in the hands of a worker
was taken out of the line (`Run.held_le`), and every job that was taken has begun, or its worker has it
still before it (`Run.begun_perm`).
-/
namespace Orchestrator

open Daemon

variable {may : Daemon → Daemon → Prop} {s₀ s t : Daemon} {h : History} {pool : Pool} {i : Nat}
  {w w' : Worker}

/-! ## Counts -/

namespace Daemon

/-- The jobs that workers have taken and not finished. -/
def held (s : Daemon) : List Job := s.workers.filterMap Worker.held?

theorem Unoccupied.held_eq_nil (hs : s.Unoccupied) : s.held = [] := by
  rw [held, List.filterMap_eq_nil_iff]
  intro w hw
  rw [hs.workers w hw]
  rfl

/-- The counts of jobs in flight are those of the jobs in the line and with workers. -/
structure Counted (s : Daemon) : Prop where
  tame : ∀ w ∈ s.workers, w.Tame
  counts : ∀ d, s.queue.inFlight.count d = tally (inScope d) s.queue.line + tally (inScope d) s.held
  positive : s.queue.inFlight.Positive

/-- Where nothing is in flight, and nobody has a job, the counts are right. -/
theorem counted_of_unoccupied (hs : s.Unoccupied) (hline : s.queue.line = [])
    (hfree : ∀ d, s.queue.inFlight.contains d = false) : s.Counted := by
  have hnone : ∀ d, s.queue.inFlight.counts.find? d = none := by
    intro d
    have := hfree d
    unfold InFlight.contains SortedMap.contains at this
    exact Option.isNone_iff_eq_none.1 (by simpa using this)
  refine ⟨fun w hw => ?_, fun d => ?_, fun d => ?_⟩
  · rw [hs.workers w hw]
    trivial
  · rw [hline, hs.held_eq_nil, InFlight.count, hnone]
    rfl
  · rw [hnone]
    intro hzero
    cases hzero

/-- When a worker changes, the jobs that are held change by its own. -/
theorem tally_held_step (hpool : s.pool = some pool) (hw : s.workers[i]? = some w)
    (hstep : WorkerStep s pool i w w' t) (p : Uuid × String → Bool) :
    tally p t.held + tally p w.held?.toList = tally p s.held + tally p w'.held?.toList := by
  rw [held, hstep.workers hpool]
  exact tally_filterMap_set hw w'

/-- A job that is taken stays counted, and one that is finished is not any more. -/
theorem Counted.step (hs : s.Counted) (hpool : s.pool = some pool) (hw : s.workers[i]? = some w)
    (hstep : WorkerStep s pool i w w' t) : t.Counted := by
  have htame := hs.tame w (List.mem_of_getElem? hw)
  refine ⟨fun v hv => ?_, fun d => ?_, ?_⟩
  · rw [hstep.workers hpool] at hv
    rcases List.mem_or_eq_of_mem_set hv with hv | rfl
    · exact hs.tame v hv
    · exact hstep.tame htame
  · have hcounts := hs.counts d
    have hheld := tally_held_step hpool hw hstep (inScope d)
    cases hstep.effect htame with
    | take hnone hsome _ hqueue _ =>
      rw [hnone, hsome] at hheld
      rw [Queue.line_take? hqueue, tally_cons] at hcounts
      rw [Queue.inFlight_take? hqueue]
      simp only [Option.toList, tally_nil] at hheld
      omega
    | @finish _ job' _ hsome hnone _ hkey hqueue _ =>
      have hreleased := s.queue.inFlight.count_release_job job' d
      rw [tally_singleton hkey] at hreleased
      rw [hsome, hnone] at hheld
      rw [hqueue]
      simp only [Queue.finish, Option.toList, tally_nil] at hreleased hheld ⊢
      omega
    | keep hsame _ hqueue _ =>
      have hjob := tally_toList (p := inScope d) hsame
      rw [hqueue]
      omega
  · cases hstep.effect htame with
    | take _ _ _ hqueue _ =>
      rw [Queue.inFlight_take? hqueue]
      exact hs.positive
    | finish _ _ _ _ hqueue _ =>
      rw [hqueue]
      exact hs.positive.release _
    | keep _ _ hqueue _ =>
      rw [hqueue]
      exact hs.positive

/-- A job that is accepted is counted. -/
theorem Counted.push (hs : s.Counted) (job : Job) (hworkers : t.workers = s.workers)
    (hqueue : t.queue = s.queue.push job) : t.Counted := by
  refine ⟨fun w hw => ?_, fun d => ?_, ?_⟩
  · rw [hworkers] at hw
    exact hs.tame w hw
  · have hacquired := s.queue.inFlight.count_acquire_job job d
    have hcounts := hs.counts d
    rw [hqueue, held, hworkers]
    simp only [Queue.push, tally_append, held] at hacquired hcounts ⊢
    omega
  · rw [hqueue]
    exact hs.positive.acquire _

theorem Counted.of_eq (hs : s.Counted) (hworkers : t.workers = s.workers) (hqueue : t.queue = s.queue) :
    t.Counted := by
  refine ⟨fun w hw => ?_, fun d => ?_, ?_⟩
  · rw [hworkers] at hw
    exact hs.tame w hw
  · rw [hqueue, held, hworkers]
    exact hs.counts d
  · rw [hqueue]
    exact hs.positive

/-- A deployment without jobs in the line and with workers is not in flight. -/
theorem Counted.contains_eq_false (hs : s.Counted) {d : String}
    (hline : tally (inScope d) s.queue.line = 0) (hheld : tally (inScope d) s.held = 0) :
    s.queue.inFlight.contains d = false := by
  have hcount := hs.counts d
  cases hcontains : s.queue.inFlight.contains d with
  | false => rfl
  | true =>
    have := (hs.positive.contains_iff d).1 hcontains
    omega

end Daemon

/-! ## Histories -/

/-- What workers hold they have taken. -/
theorem Run.held_le (hrun : Run may s₀ h s) (hs₀ : s₀.Unoccupied) (p : Uuid × String → Bool) :
    (∀ w ∈ s.workers, w.Tame) ∧ tally p s.held ≤ tally p h.taken := by
  induction hrun with
  | start =>
    refine ⟨fun w hw => ?_, ?_⟩
    · rw [hs₀.workers w hw]
      trivial
    · rw [hs₀.held_eq_nil]
      exact Nat.zero_le _
  | @worker h s t i w w' hrun hw hstep hw' ih =>
    obtain ⟨pool, hpool, ht, hcases⟩ := workerStep_of_workers hw hstep hw'
    obtain ⟨htame, hle⟩ := ih
    have hmine := htame w (List.mem_of_getElem? hw)
    refine ⟨fun v hv => ?_, ?_⟩
    · rw [ht] at hv
      rcases List.mem_or_eq_of_mem_set hv with hv | rfl
      · exact htame v hv
      · exact hcases.tame hmine
    · have hheld := tally_held_step hpool hw hcases p
      have hbalance := (hcases.effect hmine).balance p
      have hfinished : tally p (s.finished.map Prod.fst) ≤ tally p (t.finished.map Prod.fst) := by
        cases hcases.effect hmine with
        | take _ _ _ _ hfinished => exact Nat.le_of_eq (by rw [hfinished])
        | finish _ _ _ _ _ hfinished =>
          rw [hfinished, List.map_append, tally_append]
          exact Nat.le_add_right _ _
        | keep _ _ _ hfinished => exact Nat.le_of_eq (by rw [hfinished])
      rw [History.taken_append, History.taken_append, History.taken_map, List.nil_append, tally_append]
      omega
  | @outside h s t hrun hout hmay ih =>
    rw [hout.workers, held, hout.workers, History.taken_append, History.taken_map, List.append_nil]
    exact ih

namespace Worker

/-- The job that a worker has taken and not begun. -/
def unbegun? : Worker → Option Job
  | .taken job | .locking job => some job
  | _ => none

end Worker

/-- The jobs that workers have taken and not begun. -/
def Daemon.unbegun (s : Daemon) : List Job := s.workers.filterMap Worker.unbegun?

theorem Daemon.WorkerStep.unbegun (hstep : WorkerStep s pool i w w' t) :
    History.taken (w.change w') ++ w.unbegun?.toList
      = (w.change w').filterMap Happening.begun? ++ w'.unbegun?.toList := by
  cases hstep <;> rfl

/-- When one entry of a list changes, what is drawn from the list changes by what is drawn from it. -/
theorem filterMap_set_perm {α β : Type} {f : α → Option β} {l : List α} {i : Nat} {a : α}
    (h : l[i]? = some a) (b : α) :
    ((l.set i b).filterMap f ++ (f a).toList).Perm (l.filterMap f ++ (f b).toList) := by
  obtain ⟨hi, rfl⟩ := List.getElem?_eq_some_iff.1 h
  have hdraw : ∀ c : α, ∀ l' : List α, l'.Perm (c :: l.eraseIdx i) →
      (l'.filterMap f).Perm ((f c).toList ++ (l.eraseIdx i).filterMap f) := by
    intro c l' hl'
    refine (hl'.filterMap f).trans ?_
    rw [List.filterMap_cons]
    cases f c <;> exact .refl _
  have hnew := hdraw b _ (List.set_perm_cons_eraseIdx hi b)
  have hold := hdraw _ _ (List.getElem_cons_eraseIdx_perm hi).symm
  calc (l.set i b).filterMap f ++ (f l[i]).toList
      |>.Perm ((f b).toList ++ (l.eraseIdx i).filterMap f ++ (f l[i]).toList) := hnew.append_right _
    _ |>.Perm ((f b).toList ++ ((f l[i]).toList ++ (l.eraseIdx i).filterMap f)) := by
        rw [List.append_assoc]
        exact List.perm_append_comm.append_left _
    _ |>.Perm ((f b).toList ++ l.filterMap f) := hold.symm.append_left _
    _ |>.Perm (l.filterMap f ++ (f b).toList) := List.perm_append_comm

/-- Every job that was taken has begun, or its worker has it still before it. -/
theorem Run.begun_perm (hrun : Run may s₀ h s) (hs₀ : s₀.Unoccupied) :
    h.taken.Perm (h.filterMap Happening.begun? ++ s.unbegun) := by
  induction hrun with
  | start =>
    have hnone : s₀.unbegun = [] := by
      rw [unbegun, List.filterMap_eq_nil_iff]
      intro w hw
      rw [hs₀.workers w hw]
      rfl
    rw [hnone]
    exact .refl _
  | @worker h s t i w w' hrun hw hstep hw' ih =>
    obtain ⟨pool, hpool, ht, hcases⟩ := workerStep_of_workers hw hstep hw'
    have hset : (t.unbegun ++ w.unbegun?.toList).Perm (s.unbegun ++ w'.unbegun?.toList) := by
      rw [unbegun, ht]
      exact filterMap_set_perm hw w'
    have hchange := hcases.unbegun
    rw [History.taken_append, History.taken_append, History.taken_map, List.nil_append,
      List.filterMap_append, List.filterMap_append]
    have hnone : ((admitted s t).map Happening.accepted).filterMap Happening.begun? = [] := by
      simp [Happening.begun?]
    rw [hnone, List.nil_append]
    rw [List.perm_iff_count]
    intro job
    have hbefore := ih.count_eq job
    have hworkers := hset.count_eq job
    have hworker := congrArg (List.count job) hchange
    simp only [List.count_append] at hbefore hworkers hworker ⊢
    omega
  | @outside h s t hrun hout hmay ih =>
    have hnone : ((admitted s t).map Happening.accepted).filterMap Happening.begun? = [] := by
      simp [Happening.begun?]
    rw [History.taken_append, History.taken_map, List.append_nil, List.filterMap_append, hnone,
      List.append_nil, unbegun, hout.workers]
    exact ih

end Orchestrator
