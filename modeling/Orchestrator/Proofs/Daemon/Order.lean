import Orchestrator.Daemon.Control
import Orchestrator.Proofs.Daemon.Locking

/-!
# The order in which jobs begin

Jobs leave the queue in the order in which they were accepted, and those of one deployment begin in the
order in which their workers ask for its lock, each when all before it have ended. Between taking a job
and asking for the lock a worker can be overtaken by another, so the two orders may differ:
`teardown_overtakes_rollout`. They agree where no worker asks ahead of one that took an earlier job of
the deployment, hence always if there is only one worker.

Main statement: `begins_in_turn`.
-/
namespace Orchestrator

open Daemon

variable {may : Daemon → Daemon → Prop} {s₀ s t : Daemon} {h : History} {pool : Pool} {i : Nat}
  {w w' : Worker}

/-! ## The queue -/

theorem accepted_change (w w' : Worker) : History.accepted (w.change w') = [] := by
  unfold Worker.change
  split <;> rfl

/-- What is taken out of the queue is what came in, in that order. -/
theorem Run.line (hrun : Run may s₀ h s) :
    s₀.queue.line ++ h.accepted = h.taken ++ s.queue.line := by
  induction hrun with
  | start => simp [History.accepted, History.taken]
  | @worker h s t i w w' hrun hw hstep hw' ih =>
    obtain ⟨pool, -, -, hcases⟩ := workerStep_of_workers hw hstep hw'
    simp only [History.accepted_append, History.accepted_map, accepted_change, History.taken_append,
      History.taken_map, List.append_nil, List.nil_append]
    rw [← List.append_assoc, ih]
    rcases hcases.line with ⟨job, rfl, rfl, hline⟩ | ⟨htaken, jobs, hline, -⟩
    · have hnone : admitted s t = [] := by
        rw [admitted, hline]
        exact List.drop_eq_nil_of_le (Nat.le_succ _)
      have htaken : History.taken (Worker.change .idle (.taken job)) = [job] := rfl
      rw [hnone, htaken, hline]
      simp
    · rw [htaken, admitted_eq hline, hline]
      simp
  | @outside h s t hrun hout hmay ih =>
    obtain ⟨jobs, hline, -⟩ := hout.line
    rw [admitted_eq hline, History.accepted_append, History.accepted_map, ← List.append_assoc, ih,
      History.taken_append, History.taken_map, hline]
    simp

/-! ## One worker -/

/-- The job that a worker has taken and has not asked a lock for yet. -/
def Worker.pending : Worker → List Job
  | .taken job => [job]
  | _ => []

theorem Daemon.WorkerStep.pending (h : WorkerStep s pool i w w' t) :
    w.pending ++ History.taken (w.change w')
      = (w.change w').filterMap Happening.asked? ++ w'.pending := by
  cases h <;> rfl

/-- A worker alone asks for locks in the order in which it takes jobs. -/
theorem Run.alone (hrun : Run may s₀ h s) (hs₀ : s₀.Unoccupied) (hlen : s₀.workers.length = 1) :
    ∃ w, s.workers = [w] ∧ h.taken = h.filterMap Happening.asked? ++ w.pending := by
  induction hrun with
  | start =>
    obtain ⟨w, hw⟩ := List.length_eq_one_iff.1 hlen
    refine ⟨w, hw, ?_⟩
    rw [hs₀.workers w (by simp [hw])]
    rfl
  | @worker h s t i w w' hrun hw hstep hw' ih =>
    obtain ⟨pool, -, ht, hcases⟩ := workerStep_of_workers hw hstep hw'
    obtain ⟨v, hv, htaken⟩ := ih
    rw [hv] at hw ht
    obtain ⟨rfl, rfl⟩ : i = 0 ∧ v = w := by
      cases i with
      | zero => exact ⟨rfl, Option.some.inj hw⟩
      | succ n => simp at hw
    refine ⟨w', ht, ?_⟩
    rw [History.taken_append, History.taken_append, History.taken_map, List.nil_append, htaken,
      List.append_assoc, hcases.pending, List.filterMap_append, List.filterMap_append]
    simp [Happening.asked?]
  | @outside h s t hrun hout hmay ih =>
    obtain ⟨w, hw, htaken⟩ := ih
    refine ⟨w, hout.workers.trans hw, ?_⟩
    rw [History.taken_append, History.taken_map, List.append_nil, htaken, List.filterMap_append]
    simp [Happening.asked?]

/-! ## Beginnings -/

theorem begun_mem_change {job : Job} (h : .begun job ∈ w.change w') :
    w = .locking job ∧ w.change w' = [.begun job] := by
  unfold Worker.change at *
  split at h <;> simp_all

/-- A job begins when its worker is the first in the line for the lock. -/
theorem Daemon.WorkerStep.begun {job : Job} (h : WorkerStep s pool i w w' t)
    (hbegun : .begun job ∈ w.change w') : w = .locking job ∧ w.change w' = [.begun job] ∧
      (s.locks.line job.scope).head? = some i ∧ admitted s t = [] := by
  obtain ⟨rfl, hchange⟩ := begun_mem_change hbegun
  cases h with
  | first hheld => exact ⟨rfl, hchange, of_decide_eq_true hheld, List.drop_length⟩

/-- A beginning in the history of a run splits the run, too. -/
theorem Run.split_begun {h₁ h₂ : History} {job : Job} (hrun : Run may s₀ h s)
    (hsplit : h = h₁ ++ .begun job :: h₂) : ∃ s₁ i, Run may s₀ h₁ s₁ ∧
      s₁.workers[i]? = some (.locking job) ∧ (s₁.locks.line job.scope).head? = some i := by
  induction hrun generalizing h₂ with
  | start => simp at hsplit
  | @worker h s t i w w' hrun hw hstep hw' ih =>
    obtain ⟨pool, -, -, hcases⟩ := workerStep_of_workers hw hstep hw'
    have now : ∀ more, (admitted s t).map .accepted ++ w.change w' = more ++ .begun job :: h₂ →
        h₁ = h ++ more → ∃ s₁ i, Run may s₀ h₁ s₁ ∧
          s₁.workers[i]? = some (.locking job) ∧ (s₁.locks.line job.scope).head? = some i := by
      intro more hmore hh₁
      have hmem : .begun job ∈ (admitted s t).map .accepted ++ w.change w' := by simp [hmore]
      obtain ⟨rfl, hchange, hhead, hnone⟩ := hcases.begun (by simpa using hmem)
      rw [hnone, hchange] at hmore
      obtain rfl : more = [] := by
        cases more with
        | nil => rfl
        | cons x rest => simp at hmore
      refine ⟨s, i, ?_, hw, hhead⟩
      rw [hh₁, List.append_nil]
      exact hrun
    rcases List.append_eq_append_iff.1 hsplit with ⟨more, hh₁, hmore⟩ | ⟨rest, hh, hrest⟩
    · exact now more hmore hh₁
    · cases rest with
      | nil => exact now [] hrest.symm (by simpa using hh.symm)
      | cons x rest =>
        obtain ⟨rfl, -⟩ := List.cons.inj hrest
        exact ih hh
  | @outside h s t hrun hout hmay ih =>
    rcases List.append_eq_append_iff.1 hsplit with ⟨more, hh₁, hmore⟩ | ⟨rest, hh, hrest⟩
    · have hmem : .begun job ∈ (admitted s t).map Happening.accepted := by simp [hmore]
      simp at hmem
    · cases rest with
      | nil =>
        have hmem : .begun job ∈ (admitted s t).map Happening.accepted := by
          rw [List.nil_append] at hrest
          simp [← hrest]
        simp at hmem
      | cons x rest =>
        obtain ⟨rfl, -⟩ := List.cons.inj hrest
        exact ih hh

/-- When a job begins, those that began before it have ended, and it is the next of those whose workers
have asked for the lock. -/
theorem Run.begun_next {h₁ h₂ : History} {job : Job} (hrun : Run may s₀ h s) (hs₀ : s₀.Unoccupied)
    (hsplit : h = h₁ ++ .begun job :: h₂) :
    ids (h₁.begun job.scope) = ids (h₁.ended job.scope) ∧
      ids (h₁.ended job.scope) ++ [job.id] <+: ids (h.asked job.scope) := by
  obtain ⟨s₁, i, hrun₁, hw, hhead⟩ := hrun.split_begun hsplit
  obtain ⟨line, hline⟩ := List.head?_eq_some_iff.1 hhead
  have hlined := (hrun₁.lined hs₀).2 job.scope
  unfold LinedUp at hlined
  rw [hline] at hlined
  have hview : s₁.view job.scope i = some (job.id, false) := (view_eq hw).trans (if_pos rfl)
  obtain ⟨hbegun, later, hasked⟩ := hlined.ready hview
  refine ⟨hbegun, ?_⟩
  have here : ids (h₁.ended job.scope) ++ [job.id] <+: ids (h₁.asked job.scope) :=
    ⟨later, by rw [hasked]; simp⟩
  refine here.trans ?_
  rw [hsplit, History.asked_append, ids, ids, List.map_append]
  exact List.prefix_append ..

/-- Jobs are taken in the order of their acceptance. Those of a deployment begin in the order in which
their workers ask for its lock, each when exactly those before it have ended. If no worker asks ahead
of one that took an earlier job of the deployment, this is the order of acceptance, too; a worker
alone never does. -/
theorem begins_in_turn (hs₀ : s₀.Unoccupied) (hrun : Run may s₀ h s) (d : String) :
    h.taken <+: s₀.queue.line ++ h.accepted ∧
    (∀ (h₁ h₂ : History) (job : Job), h = h₁ ++ .begun job :: h₂ → job.scope = d →
      ids (h₁.begun d) = ids (h₁.ended d) ∧
        ids (h₁.ended d) ++ [job.id] <+: ids (h.asked d)) ∧
    (h.asked d <+: jobsOf d h.taken →
      ∀ (h₁ h₂ : History) (job : Job), h = h₁ ++ .begun job :: h₂ → job.scope = d →
        ids (h₁.ended d) ++ [job.id] <+: ids (jobsOf d (s₀.queue.line ++ h.accepted))) ∧
    (s₀.workers.length = 1 → h.asked d <+: jobsOf d h.taken) := by
  have htaken : h.taken <+: s₀.queue.line ++ h.accepted := ⟨s.queue.line, hrun.line.symm⟩
  refine ⟨htaken, ?_, ?_, fun hlen => ?_⟩
  · rintro h₁ h₂ job hsplit rfl
    exact hrun.begun_next hs₀ hsplit
  · rintro hturn h₁ h₂ job hsplit rfl
    have hasked : ids (h.asked job.scope) <+: ids (jobsOf job.scope h.taken) := hturn.map _
    have haccepted : ids (jobsOf job.scope h.taken)
        <+: ids (jobsOf job.scope (s₀.queue.line ++ h.accepted)) := (htaken.filter _).map _
    exact (hrun.begun_next hs₀ hsplit).2.trans (hasked.trans haccepted)
  · obtain ⟨w, -, hpending⟩ := hrun.alone hs₀ hlen
    rw [hpending, jobsOf_append]
    exact List.prefix_append ..

/-! ## Overtaking -/

/-- Every job of a deployment begins only after those accepted before it have completed. -/
def KeepsOrder (d : String) (s₀ : Daemon) (h : History) : Prop :=
  ∀ (h₁ h₂ : History) (job : Job) (before after : List Job), h = h₁ ++ .begun job :: h₂ →
    jobsOf d (s₀.queue.line ++ h.accepted) = before ++ job :: after →
      ∀ j ∈ before, j.id ∈ ids (History.completed d h₁)

/-- A rollout and a teardown of one deployment. -/
def rollout : Job := .create ⟨1⟩ .epoch (.new "api" "nginx") 1

def teardown : Job := .delete ⟨2⟩ .epoch (.new "api" "nginx") 1

/-- Two workers, and the rollout was accepted before the teardown. -/
def contested (executor : Executor) : Daemon :=
  let s : Daemon := { queue := .new 4, pool := some { Pool.new 2 with executor := executor } }
  ((s.offer rollout).2.offer teardown).2.startWorkers

theorem unoccupied_contested (executor : Executor) : (contested executor).Unoccupied := by
  refine ⟨fun w hw => ?_, fun _ => rfl⟩
  have hidle : (contested executor).workers = [.idle, .idle] := rfl
  rw [hidle] at hw
  simpa using hw

/-- The order of acceptance is not kept if the teardown begins when the rollout has not completed. -/
theorem not_keepsOrder {d : String} {h₁ h₂ : History} {j : Job} {before after : List Job}
    (hsplit : h = h₁ ++ .begun j :: h₂)
    (horder : jobsOf d (s₀.queue.line ++ h.accepted) = before ++ j :: after)
    (hnone : ∃ b ∈ before, b.id ∉ ids (History.completed d h₁)) : ¬ KeepsOrder d s₀ h := by
  obtain ⟨b, hb, hnot⟩ := hnone
  exact fun hkeeps => hnot (hkeeps _ _ _ _ _ hsplit horder b hb)

/-- The worker that took the rollout asks for the lock before the other takes the teardown. -/
def inTurn : History × Daemon :=
  follow (contested .deployments) ([0, 0, 1, 1] ++ List.replicate 30 0 ++ List.replicate 20 1)

/-- Then the teardown begins when the rollout, and nothing else, has ended. -/
theorem begins_in_turn_contested :
    ids (History.ended "api" (inTurn.1.take 6)) ++ [teardown.id]
      <+: ids (jobsOf "api" ((contested .deployments).queue.line ++ History.accepted inTurn.1)) ∧
    ids (History.ended "api" (inTurn.1.take 6)) = [rollout.id] := by
  have hrun : Run (fun _ _ => True) (contested .deployments) inTurn.1 inTurn.2 := .followed ..
  have hturn : History.asked "api" inTurn.1 <+: jobsOf "api" (History.taken inTurn.1) := by
    decide +kernel
  have hsplit : inTurn.1 = inTurn.1.take 6 ++ .begun teardown :: inTurn.1.drop 7 := by
    decide +kernel
  exact ⟨(begins_in_turn (unoccupied_contested _) hrun "api").2.2.1 hturn _ _ teardown hsplit rfl,
    by decide +kernel⟩

/-- The worker that took the teardown asks for the lock first. -/
def overtaking : History × Daemon :=
  follow (contested .deployments) ([0, 1, 1, 0] ++ List.replicate 20 1 ++ List.replicate 30 0)

/-- The rollout panics its worker. -/
def panicking : Executor := .scripted (.ofList [("api", [⟨0, .panic "boom"⟩])])

def orphaned : History × Daemon :=
  follow (contested panicking) (List.replicate 6 0 ++ List.replicate 6 1)

/-- The order of acceptance is not kept. If the worker that took the teardown asks for the lock first,
the teardown runs first and the rollout last, so a container is left. If the rollout panics its worker,
it never completes, and the teardown runs all the same. -/
theorem teardown_overtakes_rollout :
    ((contested .deployments).Unoccupied ∧
      Run (fun _ _ => True) (contested .deployments) overtaking.1 overtaking.2 ∧
      ¬ KeepsOrder "api" (contested .deployments) overtaking.1 ∧
      ids (History.completed "api" overtaking.1) = [teardown.id, rollout.id] ∧
      (overtaking.2.memory.owned "api").length = 1) ∧
    (contested panicking).Unoccupied ∧
      Run (fun _ _ => True) (contested panicking) orphaned.1 orphaned.2 ∧
      ¬ KeepsOrder "api" (contested panicking) orphaned.1 ∧
      ids (History.begun "api" orphaned.1) = [rollout.id, teardown.id] ∧
      ids (History.completed "api" orphaned.1) = [teardown.id] := by
  refine ⟨⟨unoccupied_contested _, .followed .., ?_, ?_, ?_⟩, unoccupied_contested _, .followed .., ?_,
    ?_, ?_⟩
  · have hsplit : overtaking.1 = overtaking.1.take 4 ++ .begun teardown :: overtaking.1.drop 5 := by
      decide +kernel
    have horder : jobsOf "api" ((contested .deployments).queue.line ++ History.accepted overtaking.1)
        = [rollout] ++ teardown :: [] := by decide +kernel
    exact not_keepsOrder hsplit horder ⟨rollout, by decide +kernel⟩
  · decide +kernel
  · decide +kernel
  · have hsplit : orphaned.1 = orphaned.1.take 6 ++ .begun teardown :: orphaned.1.drop 7 := by
      decide +kernel
    have horder : jobsOf "api" ((contested panicking).queue.line ++ History.accepted orphaned.1)
        = [rollout] ++ teardown :: [] := by decide +kernel
    exact not_keepsOrder hsplit horder ⟨rollout, by decide +kernel⟩
  · decide +kernel
  · decide +kernel

end Orchestrator
