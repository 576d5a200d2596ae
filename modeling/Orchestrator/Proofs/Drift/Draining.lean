import Orchestrator.Proofs.Drift.Patrol

/-!
# Workers bring their jobs to an end

During a round some worker can always go on, perhaps after a pause, as long as a job is left: whoever
has a job under way goes on with it, the first in the line for a lock begins, and an idle worker takes
the first job of the queue. An attempt ends after finitely many requests, and a job after finitely many
attempts. So the workers alone can bring all jobs to their ends (`Patrolled.drains`), whatever state
they are in. The measure is the number of jobs that are left (`Daemon.left`).
-/
namespace Orchestrator

open Engine Daemon

variable {k : Terms} {s₀ s t u : Daemon} {saved given : List Deployment} {h : History} {pool : Pool}
  {i : Nat} {w w' : Worker}

namespace Worker

theorem Attempts.job?_ne_none {w : Worker} {d : String} (hw : w.Attempts d) : w.job? ≠ none := by
  cases w with
  | attempting | sleeping => exact nofun
  | _ => exact hw.elim

theorem held?_isSome {w : Worker} (hjob : w.job?.isSome) : w.held?.isSome := by
  cases w with
  | crashed => cases hjob
  | _ => exact hjob

theorem eq_idle {w : Worker} (hjob : w.job? = none) (halive : w.hasEnded = false) : w = .idle := by
  cases w <;> simp [job?, hasEnded] at hjob halive ⊢

end Worker

namespace Daemon

/-- No job is in the line, and no worker has one. -/
structure Drained (s : Daemon) : Prop where
  line : s.queue.line = []
  workers : ∀ w ∈ s.workers, w.job? = none

/-! ## Workers go on -/

/-- Workers take steps, and time goes by. -/
inductive Works (s : Daemon) : Daemon → Prop
  | here : Works s s
  | work {t u : Daemon} {i : Nat} (h : Works s t) (hstep : t.stepWorker i = some u) : Works s u
  | wait {t : Daemon} (h : Works s t) (milliseconds : Nat) :
    Works s { t with now := t.now + milliseconds }

theorem Works.trans (h : Works s t) (h' : Works t u) : Works s u := by
  induction h' with
  | here => exact h
  | work _ hstep ih => exact ih.work hstep
  | wait _ milliseconds ih => exact ih.wait milliseconds

/-- Whatever is left of the pass, the workers may go on. -/
theorem Works.leads (h : Works s t) (rest : Program (Except (Failure Empty) DriftReport)) :
    Round.Leads ⟨s, rest⟩ ⟨t, rest⟩ := by
  induction h with
  | here => exact .here
  | @work t u i _ hstep ih => exact ih.step (.act (.worker i) hstep)
  | wait _ milliseconds ih => exact ih.step (.wait milliseconds)

/-- A worker can take a step. -/
def CanStep (s : Daemon) (i : Nat) : Worker → Prop
  | .idle => s.queue.line ≠ []
  | .taken _ | .attempting _ _ _ => True
  | .locking job => (s.locks.line job.scope).head? = some i
  | .sleeping _ _ wake _ | .resting _ _ wake => wake ≤ s.now
  | .stopped | .crashed _ => False

theorem stepWorker_of_canStep (hpool : s.pool = some pool) (hw : s.workers[i]? = some w)
    (hcan : s.CanStep i w) : ∃ t, s.stepWorker i = some t := by
  have hworkers : s.workers = pool.workers := by rw [workers, hpool]
  rw [hworkers] at hw
  simp only [stepWorker, hpool, Option.bind_eq_bind, Option.bind_some, hw]
  cases w with
  | idle =>
    obtain ⟨job, line, hline⟩ := List.exists_cons_of_ne_nil hcan
    cases hdown : pool.isShutdown with
    | true => exact ⟨_, if_pos rfl⟩
    | false => simp [Queue.take?, hline]
  | taken job => exact ⟨_, rfl⟩
  | locking job =>
    have hheld : s.locks.isHeldBy job.scope i = true := decide_eq_true hcan
    exact ⟨_, if_pos hheld⟩
  | attempting job attempt rest =>
    cases rest with
    | done outcome => exact ⟨_, rfl⟩
    | ask r next => cases r <;> exact ⟨_, rfl⟩
  | sleeping job attempt wake rest => exact ⟨_, if_pos hcan⟩
  | resting job attempt wake => exact ⟨_, if_pos hcan⟩
  | stopped => exact hcan.elim
  | crashed job => exact hcan.elim

/-! ## How many jobs are left -/

/-- The number of jobs that no worker has finished. -/
def left (s : Daemon) : Nat := s.queue.line.length + s.held.length

/-- A step of a worker does not add to the jobs that are left, and takes one away where it ends one. -/
theorem WorkerStep.left (hpool : s.pool = some pool) (hw : s.workers[i]? = some w)
    (hstep : WorkerStep s pool i w w' t) (htame : w.Tame) :
    t.left ≤ s.left ∧ (w.held?.isSome → w' = .idle → t.left < s.left) := by
  have hheld := tally_held_step hpool hw hstep fun _ => true
  simp only [tally, List.countP_true] at hheld
  unfold Daemon.left
  cases hstep.effect htame with
  | take hnone hsome _ hqueue _ =>
    have hline := congrArg List.length (Queue.line_take? hqueue)
    rw [hnone, hsome] at hheld
    simp only [Option.toList, List.length_cons, List.length_nil] at hheld hline
    refine ⟨by omega, fun hjob => ?_⟩
    rw [hnone] at hjob
    cases hjob
  | finish hsome hnone _ _ hqueue _ =>
    rw [hsome, hnone] at hheld
    rw [hqueue]
    simp only [Option.toList, List.length_cons, List.length_nil, Queue.finish] at hheld ⊢
    refine ⟨by omega, fun _ _ => by omega⟩
  | keep hsame _ hqueue _ =>
    have hlength := congrArg (List.length ∘ Option.toList) hsame
    simp only [Function.comp_apply, Option.length_toList, Option.isSome_map] at hlength
    rw [hqueue]
    simp only [Option.length_toList] at hheld
    refine ⟨by omega, ?_⟩
    rintro hjob rfl
    rw [show Worker.idle.held? = none from rfl] at hlength
    simp [hjob] at hlength

end Daemon

/-! ## During a round -/

theorem Run.length_workers {may : Daemon → Daemon → Prop} (hrun : Run may s₀ h s) :
    s.workers.length = s₀.workers.length := by
  induction hrun with
  | start => rfl
  | worker _ hw hstep hw' ih =>
    obtain ⟨pool, -, ht, -⟩ := workerStep_of_workers hw hstep hw'
    rw [ht, List.length_set]
    exact ih
  | outside _ hout _ ih =>
    rw [hout.workers]
    exact ih

/-- Workers can go on to a state in which fewer jobs are left. -/
def Eases (k : Terms) (s₀ : Daemon) (saved given : List Deployment) (s : Daemon) : Prop :=
  ∃ t h, s.Works t ∧ Patrolled k s₀ saved given h t ∧ t.left < s.left

theorem Eases.before (ht : Eases k s₀ saved given t) (hworks : s.Works t) (hle : t.left ≤ s.left) :
    Eases k s₀ saved given s := by
  obtain ⟨u, h, hworks', hx, hlt⟩ := ht
  exact ⟨u, h, hworks.trans hworks', hx, Nat.lt_of_lt_of_le hlt hle⟩

namespace Patrolled

/-- A worker takes a step, perhaps after a pause. -/
theorem go (hx : Patrolled k s₀ saved given h s) (hs₀ : s₀.Idle k saved) (hw : s.workers[i]? = some w)
    (milliseconds : Nat) (hcan : CanStep { s with now := s.now + milliseconds } i w) :
    ∃ t h' pool w', s.Works t ∧ Patrolled k s₀ saved given h' t ∧ t.workers[i]? = some w' ∧
      WorkerStep { s with now := s.now + milliseconds } pool i w w' t ∧ t.left ≤ s.left ∧
      (w.job?.isSome → w' = .idle → t.left < s.left) := by
  obtain ⟨h', hx'⟩ := hx.wait milliseconds
  have hlater : ({ s with now := s.now + milliseconds } : Daemon).workers[i]? = some w := hw
  have hexecutor := (hx'.serial hs₀).executor
  obtain ⟨pool, hpool, -⟩ := Option.map_eq_some_iff.1 hexecutor
  obtain ⟨t, hstep⟩ := stepWorker_of_canStep hpool hlater hcan
  obtain ⟨h'', hx''⟩ := hx'.worker hs₀ hstep
  obtain ⟨pool', w', hpool', -, hw', hcases⟩ := workerStep_of_stepWorker hlater hstep
  obtain ⟨hle, hlt⟩ := hcases.left hpool' hlater (hx'.counted.tame w (List.mem_of_getElem? hw))
  exact ⟨t, h'', pool', w', .work (.wait .here milliseconds) hstep, hx'', hw', hcases, hle,
    fun hjob => hlt (Worker.held?_isSome hjob)⟩

/-- An attempt ends after finitely many requests, and is made again only so many times. -/
theorem eases_of_attempting {job : Job} {attempt : Nat} {rest : AttemptProgram}
    (hx : Patrolled k s₀ saved given h s) (hs₀ : s₀.Idle k saved)
    (hw : s.workers[i]? = some (.attempting job attempt rest)) : Eases k s₀ saved given s := by
  -- the outer induction is on the attempts that are left, of which there are fewer than 2 ^ 32
  induction hfuel : 2 ^ 32 - attempt using Nat.strongRecOn generalizing s h job attempt rest with
  | ind fuel ih =>
    induction rest generalizing s h with
    | done outcome =>
      obtain ⟨t, h', pool, w', hworks, hx', hw', hcases, hle, hlt⟩ := hx.go hs₀ hw 0 trivial
      cases hcases with
      | succeed => exact ⟨_, h', hworks, hx', hlt rfl rfl⟩
      | fail _ => exact ⟨_, h', hworks, hx', hlt rfl rfl⟩
      | crash =>
        have halive := hx'.alive _ (List.mem_of_getElem? hw')
        cases halive
      | @retry _ job' _ e hmore =>
        have hbound : job'.attempts.toNat < 2 ^ 32 := job'.attempts.toNat_lt
        obtain ⟨u, h'', pool', v, hworks', hx'', hv, hcases', hle', -⟩ :=
          hx'.go hs₀ hw' pool.retryDelay (Nat.le_refl _)
        cases hcases' with
        | again _ =>
          have hagain := ih (2 ^ 32 - (attempt + 1)) (by omega) hx'' hv rfl
          exact hagain.before (hworks.trans hworks') (Nat.le_trans hle' hle)
    | ask r next ihnext =>
      obtain ⟨t, h', pool, w', hworks, hx', hw', hcases, hle, -⟩ := hx.go hs₀ hw 0 trivial
      cases hcases with
      | ask _ => exact (ihnext _ hx' hw').before hworks hle
      | @pause _ _ milliseconds next =>
        obtain ⟨u, h'', pool', v, hworks', hx'', hv, hcases', hle', -⟩ :=
          hx'.go hs₀ hw' milliseconds (Nat.le_refl _)
        cases hcases' with
        | wake _ =>
          exact (ihnext () hx'' hv).before (hworks.trans hworks') (Nat.le_trans hle' hle)

/-- A worker that has a job under way ends one. -/
theorem eases_of_underWay {d : String} (hx : Patrolled k s₀ saved given h s) (hs₀ : s₀.Idle k saved)
    (hw : s.workers[i]? = some w) (hunder : w.underWay? = some d) : Eases k s₀ saved given s := by
  cases w with
  | attempting job attempt rest => exact hx.eases_of_attempting hs₀ hw
  | sleeping job attempt wake rest =>
    obtain ⟨t, h', pool, w', hworks, hx', hw', hcases, hle, -⟩ := hx.go hs₀ hw wake (Nat.le_add_left ..)
    cases hcases with
    | wake _ => exact (hx'.eases_of_attempting hs₀ hw').before hworks hle
  | resting job attempt wake =>
    obtain ⟨t, h', pool, w', hworks, hx', hw', hcases, hle, -⟩ := hx.go hs₀ hw wake (Nat.le_add_left ..)
    cases hcases with
    | again _ => exact (hx'.eases_of_attempting hs₀ hw').before hworks hle
  | _ => cases hunder

/-- Where a worker waits for a lock, the first in the line has a job under way, or begins one. -/
theorem eases_of_locking {job : Job} (hx : Patrolled k s₀ saved given h s) (hs₀ : s₀.Idle k saved)
    (hw : s.workers[i]? = some (.locking job)) : Eases k s₀ saved given s := by
  have hlined := (hx.run.lined hs₀.unoccupied).2 job.scope
  have hview : s.view job.scope i = some (job.id, false) := (view_eq hw).trans (if_pos rfl)
  have hmem : i ∈ s.locks.line job.scope := (hlined.mem i).2 (by rw [hview]; rfl)
  obtain ⟨j, line, hline⟩ := List.exists_cons_of_ne_nil (List.ne_nil_of_mem hmem)
  have hfirst : j ∈ s.locks.line job.scope := by
    rw [hline]
    exact List.mem_cons_self
  obtain ⟨⟨id, begun⟩, hsees⟩ := Option.isSome_iff_exists.1 ((hlined.mem j).1 hfirst)
  obtain ⟨v, hv, hsees⟩ := Option.bind_eq_some_iff.1 hsees
  cases begun with
  | true => exact hx.eases_of_underWay hs₀ hv (Worker.underWay_iff.2 ⟨id, hsees⟩)
  | false =>
    obtain ⟨job', rfl, hscope⟩ : ∃ job', v = .locking job' ∧ job'.scope = job.scope := by
      cases v with
      | locking job' => exact ⟨job', rfl, by_contra fun hne => by simp [Worker.view, hne] at hsees⟩
      | _ => simp [Worker.view] at hsees
    have hhead : (s.locks.line job'.scope).head? = some j := by
      rw [hscope, hline]
      rfl
    obtain ⟨t, h', pool, w', hworks, hx', hw', hcases, hle, -⟩ := hx.go hs₀ hv 0 hhead
    cases hcases with
    | first _ => exact (hx'.eases_of_attempting hs₀ hw').before hworks hle

theorem eases_of_taken {job : Job} (hx : Patrolled k s₀ saved given h s) (hs₀ : s₀.Idle k saved)
    (hw : s.workers[i]? = some (.taken job)) : Eases k s₀ saved given s := by
  obtain ⟨t, h', pool, w', hworks, hx', hw', hcases, hle, -⟩ := hx.go hs₀ hw 0 trivial
  cases hcases with
  | join => exact (hx'.eases_of_locking hs₀ hw').before hworks hle

/-- As long as a job is left, workers can end one. -/
theorem eases (hx : Patrolled k s₀ saved given h s) (hs₀ : s₀.Idle k saved)
    (hworkers : s₀.workers ≠ []) (hmore : ¬ s.Drained) : Eases k s₀ saved given s := by
  by_cases hjob : ∃ w ∈ s.workers, w.job? ≠ none
  · obtain ⟨w, hw, hjob⟩ := hjob
    obtain ⟨i, hw⟩ := List.mem_iff_getElem?.1 hw
    cases w with
    | taken job => exact hx.eases_of_taken hs₀ hw
    | locking job => exact hx.eases_of_locking hs₀ hw
    | attempting | sleeping | resting => exact hx.eases_of_underWay hs₀ hw rfl
    | idle | stopped | crashed => exact absurd rfl hjob
  · -- then a job is in the line, and whoever is the first of the workers takes it
    have hnone : ∀ w ∈ s.workers, w.job? = none := fun w hw => by_contra fun hne => hjob ⟨w, hw, hne⟩
    have hline : s.queue.line ≠ [] := fun hline => hmore ⟨hline, hnone⟩
    have hsome : s.workers ≠ [] := by
      intro hempty
      have hlength := hx.run.length_workers
      rw [hempty, List.length_nil] at hlength
      exact hworkers (List.eq_nil_of_length_eq_zero hlength.symm)
    obtain ⟨w, others, hall⟩ := List.exists_cons_of_ne_nil hsome
    have hw : s.workers[0]? = some w := by rw [hall]; rfl
    have hmem := List.mem_of_getElem? hw
    obtain rfl := Worker.eq_idle (hnone w hmem) (hx.alive w hmem)
    obtain ⟨t, h', pool, w', hworks, hx', hw', hcases, hle, -⟩ := hx.go hs₀ hw 0 hline
    cases hcases with
    | take _ => exact (hx'.eases_of_taken hs₀ hw').before hworks hle
    | stop =>
      have halive := hx'.alive _ (List.mem_of_getElem? hw')
      cases halive

/-- Whatever state they are in, workers can bring all jobs to their ends. -/
theorem drains (hx : Patrolled k s₀ saved given h s) (hs₀ : s₀.Idle k saved)
    (hworkers : s₀.workers ≠ []) : ∃ t h', s.Works t ∧ Patrolled k s₀ saved given h' t ∧ t.Drained := by
  induction hleft : s.left using Nat.strongRecOn generalizing s h with
  | ind n ih =>
    by_cases hdone : s.Drained
    · exact ⟨s, h, .here, hx, hdone⟩
    · obtain ⟨t, h', hworks, hx', hlt⟩ := hx.eases hs₀ hworkers hdone
      obtain ⟨u, h'', hworks', hx'', hdrained⟩ := ih t.left (hleft ▸ hlt) hx' rfl
      exact ⟨u, h'', hworks.trans hworks', hx'', hdrained⟩

end Patrolled

end Orchestrator
