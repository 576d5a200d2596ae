import Orchestrator.Daemon.Control
import Orchestrator.Proofs.Daemon.Alone
import Orchestrator.Proofs.Daemon.Locking

/-!
# The jobs of a deployment, one after another

Workers with jobs of different deployments interleave as they like, but only the first in the line for
a lock has a job of the deployment under way (`LinedUp.held`). So while an attempt is under way all that
others do keeps the deployment's containers, and the rest of its program will reach the shape of its
job; and where no attempt is under way the shape is reached. This is the invariant `Serial`.

Main statement: `serializable`, the containers of a deployment are as if its jobs had been carried out
alone, in the order in which they began.
-/
namespace Orchestrator

open Engine Daemon

/-- The deployment of which a worker has a job under way: it has the lock, and is not at the end. -/
def Worker.underWay? : Worker → Option String
  | .attempting job _ _ | .sleeping job _ _ _ | .resting job _ _ => some job.scope
  | _ => none

/-- A worker makes an attempt of a job of a deployment. -/
def Worker.Attempts (d : String) : Worker → Prop
  | .attempting job _ _ | .sleeping job _ _ _ => job.scope = d
  | _ => False

/-! ## Exclusion -/

section

variable {d : String} {h : History} {s : Daemon} {i : Nat} {w : Worker}

theorem Worker.Attempts.underWay (hw : w.Attempts d) : w.underWay? = some d := by
  cases w with
  | attempting job attempt rest => exact congrArg some hw
  | sleeping job attempt wake rest => exact congrArg some hw
  | _ => exact hw.elim

/-- A worker is seen under way exactly if it has a job under way. -/
theorem Worker.underWay_iff : w.underWay? = some d ↔ ∃ id, w.view d = some (id, true) := by
  cases w <;> simp [underWay?, view]

/-- Who has a job under way holds the lock of its deployment. -/
theorem LinedUp.held (hlined : LinedUp d h s) (hw : s.workers[i]? = some w)
    (hunder : w.underWay? = some d) : (s.locks.line d).head? = some i := by
  obtain ⟨id, hview⟩ := Worker.underWay_iff.1 hunder
  obtain ⟨rest, hline⟩ := hlined.head_of_underWay ((view_eq hw).trans hview)
  rw [hline]
  rfl

/-- No attempt is under way if the holder of the lock makes none. -/
theorem LinedUp.not_attempts (hlined : LinedUp d h s) (hhead : (s.locks.line d).head? = some i)
    (hw : s.workers[i]? = some w) (hnot : ¬ w.Attempts d) : ∀ v ∈ s.workers, ¬ v.Attempts d := by
  intro v hv hattempts
  obtain ⟨j, hj⟩ := List.mem_iff_getElem?.1 hv
  have hhead' := hlined.held hj hattempts.underWay
  obtain rfl : i = j := Option.some.inj (hhead.symm.trans hhead')
  obtain rfl : w = v := Option.some.inj (hw.symm.trans hj)
  exact hnot hattempts

end

/-! ## The invariant -/

/-- The shape of a deployment's containers after the jobs that have begun. -/
def Terms.reached (k : Terms) (h : History) (d : String) : Shape := k.shape (h.begun d)

/-- What is known of a worker, by the shapes of the deployments. -/
def Engaged (k : Terms) (s₀ : Daemon) (shapes : String → Shape) (s : Daemon) : Worker → Prop
  | .taken job | .locking job => job.Apt
  | .resting job _ _ => job.Apt ∧ k.after (shapes job.scope) job.work = shapes job.scope
  | .attempting job _ rest | .sleeping job _ _ rest =>
    rest.Meets (shared job.scope (some k)) (Reached k s₀ job.scope (shapes job.scope)) s
  | .idle | .stopped | .crashed _ => True

/-- What the daemon has kept since the state `s₀`. -/
structure Calm (k : Terms) (s₀ s : Daemon) : Prop where
  steady : s.Steady
  hold : k.Hold s
  fleet : s.fleet = s₀.fleet
  later : s₀.memory.created ≤ s.memory.created

/-- The invariant of a run from `s₀`. -/
structure Serial (k : Terms) (s₀ : Daemon) (h : History) (s : Daemon) : Prop where
  calm : Calm k s₀ s
  executor : s.pool.map Pool.executor = some .deployments
  line : ∀ job ∈ s.queue.line, job.Apt
  workers : ∀ (i : Nat) w, s.workers[i]? = some w → Engaged k s₀ (k.reached h) s w
  /-- Where no attempt is under way, the jobs that have begun have reached their shape. -/
  free : ∀ d, (∀ w ∈ s.workers, ¬ w.Attempts d) → (k.reached h d).Fits k s₀ d (s.memory.owned d)
  begun : ∀ d, ∀ job ∈ h.begun d, job.Apt
  completed : ∀ d, h.completed d = h.ended d

section

variable {k : Terms} {s₀ s t : Daemon} {h : History} {pool : Pool} {i : Nat} {w w' : Worker}
  {d : String} {shapes shapes' : String → Shape}

theorem Calm.settled {shape : Shape} (h : Calm k s₀ s) (hfits : shape.Fits k s₀ d (s.memory.owned d)) :
    Settled k s₀ d shape s :=
  ⟨⟨h.steady, rfl, h.later, h.fleet, fun _ hk => Option.mem_some.1 hk ▸ h.hold, by simp⟩, hfits⟩

theorem Calm.others (h : Calm k s₀ s) (hst : Others d (some k) s t) : Calm k s₀ t :=
  ⟨hst.steady h.steady, (hst.terms k rfl h.hold).1, hst.fleet.trans h.fleet,
    Nat.le_trans h.later hst.created⟩

theorem Calm.own (h : Calm k s₀ s) (hst : Own d (some k) s t) : Calm k s₀ t :=
  ⟨hst.steady h.steady, (hst.terms k rfl h.hold).1.1, hst.fleet.trans h.fleet,
    Nat.le_trans h.later hst.created⟩

/-- Others keep what is known of a worker, if they do nothing to the deployment it has under way. -/
theorem Engaged.others (h : Engaged k s₀ shapes s w)
    (hst : ∀ d, w.underWay? = some d → Others d (some k) s t ∧ shapes' d = shapes d) :
    Engaged k s₀ shapes' t w := by
  cases w with
  | attempting job attempt rest =>
    obtain ⟨hothers, hshape⟩ := hst _ rfl
    dsimp only [Engaged] at h ⊢
    rw [hshape]
    exact h.others hothers Reached.others
  | sleeping job attempt wake rest =>
    obtain ⟨hothers, hshape⟩ := hst _ rfl
    dsimp only [Engaged] at h ⊢
    rw [hshape]
    exact h.others hothers Reached.others
  | resting job attempt wake =>
    obtain ⟨-, hshape⟩ := hst _ rfl
    dsimp only [Engaged] at h ⊢
    rw [hshape]
    exact h
  | _ => exact h

/-- An attempt that the holder of a lock begins will reach the shape of its job. -/
theorem Serial.begins (hserial : Serial k s₀ h s) (hlined : ∀ d, LinedUp d h s)
    (hi : s.workers[i]? = some w) (job : Job) (hapt : job.Apt)
    (hhead : (s.locks.line job.scope).head? = some i) (hnot : ¬ w.Attempts job.scope) :
    (Executor.performWorkflow s.fleet job).Meets (shared job.scope (some k))
      (Reached k s₀ job.scope (k.after (k.reached h job.scope) job.work)) s := by
  have hfits := hserial.free job.scope ((hlined job.scope).not_attempts hhead hi hnot)
  rw [hserial.calm.fleet]
  exact attempt_settles job rfl hapt (hserial.calm.settled hfits)

/-! ## One step -/

namespace Daemon

/-- A step does nothing to a deployment of which the worker makes no attempt. -/
theorem WorkerStep.frame (hstep : WorkerStep s pool i w w' t) (hcalm : Calm k s₀ s)
    (hw : Engaged k s₀ shapes s w) :
    (∀ d, ¬ w.Attempts d → Others d (some k) s t) ∧ Calm k s₀ t := by
  rcases hstep.aside with haside | ⟨job, attempt, c, next, rfl, -, rfl⟩
  · exact ⟨fun d _ => haside.others, hcalm.others (haside.others (d := ""))⟩
  · have own : Own job.scope (some k) s ((s.called c).setWorker i w') :=
      (meets_serve hw).1.aside (aside_setWorker ..)
    exact ⟨fun d hne => own.others hne hcalm.hold, hcalm.own own⟩

/-- A worker that waits for a lock takes a step only as its holder. -/
theorem WorkerStep.held {job : Job} (hstep : WorkerStep s pool i (.locking job) w' t) :
    (s.locks.line job.scope).head? = some i := by
  cases hstep with
  | first hheld => exact of_decide_eq_true hheld

/-- In a step no job of a deployment begins, or that for which its worker waited. -/
theorem WorkerStep.begins (hstep : WorkerStep s pool i w w' t) (d : String) :
    (History.begun d (w.change w') = [] ∧ ∀ job, w = .locking job → job.scope ≠ d) ∨
      ∃ job, w = .locking job ∧ job.scope = d ∧ w'.Attempts d ∧
        History.begun d (w.change w') = [job] := by
  cases hstep with
  | @first job hheld =>
    by_cases hd : job.scope = d
    · exact .inr ⟨job, rfl, hd, hd, jobsOf_of_eq hd⟩
    · exact .inl ⟨jobsOf_of_ne hd, fun _ h => Worker.locking.inj h ▸ hd⟩
  | _ => exact .inl ⟨rfl, fun _ h => (nomatch h)⟩

/-- An attempt that ends has reached its shape. -/
theorem WorkerStep.ends (hstep : WorkerStep s pool i w w' t) (hw : Engaged k s₀ shapes s w)
    (hattempts : w.Attempts d) (hw' : ¬ w'.Attempts d) :
    Settled k s₀ d (shapes d) s ∧ t.memory = s.memory := by
  cases hstep with
  | @succeed job job' attempt =>
    obtain rfl : job.scope = d := hattempts
    exact ⟨hw.2.2.2.2, rfl⟩
  | @crash job job' attempt text =>
    obtain rfl : job.scope = d := hattempts
    exact ⟨hw.2.2.2.2, rfl⟩
  | @retry job job' attempt e _ =>
    obtain rfl : job.scope = d := hattempts
    exact ⟨hw.2.2.2.2, rfl⟩
  | @fail job job' attempt e _ =>
    obtain rfl : job.scope = d := hattempts
    exact ⟨hw.2.2.2.2, rfl⟩
  | pause => exact absurd hattempts hw'
  | ask _ => exact absurd hattempts hw'
  | wake _ => exact absurd hattempts hw'
  | first _ => exact hattempts.elim
  | again _ => exact hattempts.elim
  | _ => exact hattempts.elim

/-- No job is lost. -/
theorem WorkerStep.completed_eq (hstep : WorkerStep s pool i w w' t) (hw : Engaged k s₀ shapes s w)
    (d : String) : History.completed d (w.change w') = History.ended d (w.change w') := by
  cases hstep with
  | crash => exact absurd rfl (hw.1 _)
  | _ => rfl

/-- The worker's own part of the invariant, where `shapes'` are the shapes after the step. -/
theorem WorkerStep.engaged (hstep : WorkerStep s pool i w w' t) (hserial : Serial k s₀ h s)
    (hlined : ∀ d, LinedUp d h s) (hexecutor : pool.executor = .deployments)
    (hi : s.workers[i]? = some w)
    (hkept : ∀ d, History.begun d (w.change w') = [] → shapes' d = k.reached h d)
    (hbegins : ∀ job, w = .locking job → shapes' job.scope = k.after (k.reached h job.scope) job.work) :
    Engaged k s₀ shapes' t w' := by
  have hw := hserial.workers i w hi
  cases hstep with
  | stop => trivial
  | take htake =>
    refine hserial.line _ ?_
    rw [Queue.line_take? htake]
    exact List.mem_cons_self
  | join => exact hw
  | @first job hheld =>
    have hmeets := hserial.begins hlined hi (job.started s.stamp.1).attempted hw
      (of_decide_eq_true hheld) id
    dsimp only [Engaged]
    rw [show (job.started s.stamp.1).attempted.scope = job.scope from rfl, hbegins job rfl, hexecutor]
    exact hmeets.others (Aside.others ⟨rfl, rfl, fun _ _ => rfl, Nat.le_refl _, rfl⟩) Reached.others
  | succeed => trivial
  | crash => trivial
  | fail _ => trivial
  | @retry job job' attempt e _ =>
    obtain ⟨-, hscope, hapt, hafter, -⟩ := hw
    refine ⟨hapt, ?_⟩
    have hshape : shapes' job'.scope = k.reached h job.scope := by
      rw [show job'.scope = job.scope from hscope]
      exact hkept _ rfl
    change k.after (shapes' job'.scope) job'.work = shapes' job'.scope
    rw [hshape]
    exact hafter
  | @pause job _ _ _ =>
    dsimp only [Engaged]
    rw [hkept job.scope rfl]
    exact (meets_serve hw).2.others (aside_setWorker ..).others Reached.others
  | @ask job _ _ _ _ =>
    dsimp only [Engaged]
    rw [hkept job.scope rfl]
    exact (meets_serve hw).2.others (aside_setWorker ..).others Reached.others
  | @wake job _ _ _ _ =>
    dsimp only [Engaged]
    rw [hkept job.scope rfl]
    exact Program.Meets.others hw (aside_setWorker ..).others Reached.others
  | @again job attempt wake _ =>
    have hmeets := hserial.begins hlined hi job.attempted hw.1 ((hlined job.scope).held hi rfl) id
    dsimp only [Engaged]
    rw [show job.attempted.scope = job.scope from rfl, hkept job.scope rfl, ← hw.2, hexecutor]
    exact hmeets.others (Aside.others ⟨rfl, rfl, fun _ _ => rfl, Nat.le_refl _, rfl⟩) Reached.others

end Daemon

/-! ## Whole runs -/

theorem Terms.reached_append {jobs : List Job} {more : History}
    (hmore : more.begun d = []) : k.reached (h ++ (jobs.map .accepted ++ more)) d = k.reached h d := by
  simp [reached, hmore]

/-- What a step does to the shape of a deployment. -/
theorem Terms.reached_begun {jobs : List Job} {more : History} {job : Job}
    (hmore : more.begun d = [job]) :
    k.reached (h ++ (jobs.map .accepted ++ more)) d = k.after (k.reached h d) job.work := by
  rw [reached, History.begun_append, History.begun_append, History.begun_map, List.nil_append, hmore,
    Terms.shape_concat]
  rfl

/-- Only valid jobs come into the line. -/
theorem Outside.apt (hout : Outside s t) (hline : ∀ job ∈ s.queue.line, job.Apt) :
    ∀ job ∈ t.queue.line, job.Apt := by
  obtain ⟨jobs, heq, hvalid⟩ := hout.line
  intro job hjob
  rw [heq] at hjob
  rcases List.mem_append.1 hjob with hjob | hjob
  · exact hline job hjob
  · exact Job.apt_of_validate (hvalid job hjob)

theorem Daemon.WorkerStep.apt (hstep : WorkerStep s pool i w w' t)
    (hline : ∀ job ∈ s.queue.line, job.Apt) : ∀ job ∈ t.queue.line, job.Apt := by
  intro job hjob
  rcases hstep.line with ⟨first, -, -, heq⟩ | ⟨-, more, heq, hvalid⟩
  · exact hline job (by simp [heq, hjob])
  · rw [heq] at hjob
    rcases List.mem_append.1 hjob with hjob | hjob
    · exact hline job hjob
    · exact Job.apt_of_validate (hvalid job hjob)

/-- A step keeps what is known of another worker: if that one has a job under way, it holds the lock of
the deployment, so this one does not. -/
theorem Daemon.WorkerStep.engaged_other {j : Nat} {v : Worker} (hstep : WorkerStep s pool i w w' t)
    (hserial : Serial k s₀ h s) (hlined : ∀ d, LinedUp d h s) (hi : s.workers[i]? = some w)
    (hj : s.workers[j]? = some v) (hji : j ≠ i) (jobs : List Job) :
    Engaged k s₀ (k.reached (h ++ (jobs.map .accepted ++ w.change w'))) t v := by
  obtain ⟨hframe, -⟩ := hstep.frame hserial.calm (hserial.workers i w hi)
  refine (hserial.workers j v hj).others fun d hunder => ?_
  have hhead := (hlined d).held hj hunder
  refine ⟨hframe d fun hattempts => hji ?_, ?_⟩
  · exact Option.some.inj (hhead.symm.trans ((hlined d).held hi hattempts.underWay))
  · rcases hstep.begins d with ⟨hnone, -⟩ | ⟨job, rfl, rfl, -, -⟩
    · exact Terms.reached_append hnone
    · exact absurd (Option.some.inj (hhead.symm.trans hstep.held)) hji

/-- Where no attempt of a deployment is under way after a step, its jobs have reached their shape: the
step has ended the last attempt, or there was none before. -/
theorem Daemon.WorkerStep.free (hstep : WorkerStep s pool i w w' t) (hserial : Serial k s₀ h s)
    (hi : s.workers[i]? = some w) (ht : t.workers = s.workers.set i w') (jobs : List Job)
    (hfree : ∀ v ∈ t.workers, ¬ v.Attempts d) :
    (k.reached (h ++ (jobs.map .accepted ++ w.change w')) d).Fits k s₀ d (t.memory.owned d) := by
  have hw := hserial.workers i w hi
  have hself : w' ∈ t.workers := by
    rw [ht]
    exact List.mem_set (List.getElem?_eq_some_iff.1 hi).1 w'
  have hw' : ¬ w'.Attempts d := hfree w' hself
  obtain ⟨hnone, -⟩ := (hstep.begins d).resolve_right fun ⟨_, _, _, hattempts, _⟩ => hw' hattempts
  rw [Terms.reached_append hnone]
  by_cases hattempts : w.Attempts d
  · obtain ⟨hsettled, hmemory⟩ := hstep.ends hw hattempts hw'
    rw [hmemory]
    exact hsettled.fits
  · rw [((hstep.frame hserial.calm hw).1 d hattempts).owned]
    refine hserial.free d fun v hv => ?_
    obtain ⟨j, hj⟩ := List.mem_iff_getElem?.1 hv
    by_cases hji : j = i
    · subst hji
      obtain rfl : w = v := Option.some.inj (hi.symm.trans hj)
      exact hattempts
    · refine hfree v (List.mem_of_getElem? (i := j) ?_)
      rw [ht, List.getElem?_set_ne (Ne.symm hji), hj]

/-- Every step of a worker keeps the invariant. -/
theorem Serial.step (hserial : Serial k s₀ h s) (hlined : ∀ d, LinedUp d h s)
    (hpool : s.pool = some pool) (hi : s.workers[i]? = some w)
    (hstep : WorkerStep s pool i w w' t) (jobs : List Job) :
    Serial k s₀ (h ++ (jobs.map .accepted ++ w.change w')) t := by
  have hexecutor : pool.executor = .deployments := by
    have := hserial.executor
    rw [hpool] at this
    exact Option.some.inj this
  have hw := hserial.workers i w hi
  have ht : t.workers = s.workers.set i w' := hstep.workers hpool
  refine ⟨(hstep.frame hserial.calm hw).2, ?_, hstep.apt hserial.line, fun j v hv => ?_,
    fun d => hstep.free hserial hi ht jobs, fun d job hjob => ?_, fun d => ?_⟩
  · obtain ⟨executor, hpool', hdeployments⟩ := hstep.pool_eq hpool
    rw [hpool']
    exact congrArg some (hdeployments hexecutor)
  · rw [ht] at hv
    by_cases hji : j = i
    · subst hji
      rw [List.getElem?_set_self (List.getElem?_eq_some_iff.1 hi).1] at hv
      obtain rfl := Option.some.inj hv
      refine hstep.engaged hserial hlined hexecutor hi (fun d => Terms.reached_append) ?_
      rintro job rfl
      rcases hstep.begins job.scope with ⟨-, hne⟩ | ⟨job', hjob', -, -, hbegun⟩
      · exact absurd rfl (hne job rfl)
      · obtain rfl := Worker.locking.inj hjob'
        exact Terms.reached_begun hbegun
    · rw [List.getElem?_set_ne (Ne.symm hji)] at hv
      exact hstep.engaged_other hserial hlined hi hv hji jobs
  · rw [History.begun_append, History.begun_append, History.begun_map, List.nil_append] at hjob
    rcases List.mem_append.1 hjob with hjob | hjob
    · exact hserial.begun d job hjob
    · rcases hstep.begins d with ⟨hnone, -⟩ | ⟨job', rfl, -, -, hbegun⟩
      · rw [hnone] at hjob
        cases hjob
      · rw [hbegun] at hjob
        obtain rfl := List.mem_singleton.1 hjob
        exact hw
  · rw [History.completed_append, History.completed_append, History.ended_append, History.ended_append,
      History.completed_map, History.ended_map, hstep.completed_eq hw, hserial.completed]

/-- What others than the workers may do where jobs are to be carried out as if alone: nothing to any
deployment's containers, nothing that breaks the terms, and nothing to what the workers run. -/
structure Harmless (k : Terms) (s t : Daemon) : Prop where
  others : ∀ d, Others d (some k) s t
  executor : t.pool.map Pool.executor = s.pool.map Pool.executor

/-- Terms hold, and workers will make attempts of valid jobs only. -/
structure Daemon.Ready (k : Terms) (s : Daemon) : Prop where
  steady : s.Steady
  hold : k.Hold s
  executor : s.pool.map Pool.executor = some .deployments
  line : ∀ job ∈ s.queue.line, job.validate = .ok ()

/-- The invariant holds along every run. -/
theorem Run.serial {may : Daemon → Daemon → Prop} (hrun : Run may s₀ h s) (hs₀ : s₀.Unoccupied)
    (hready : s₀.Ready k) (hmay : ∀ s t, may s t → Harmless k s t) : Serial k s₀ h s := by
  induction hrun with
  | start =>
    refine ⟨⟨hready.steady, hready.hold, rfl, Nat.le_refl _⟩, hready.executor,
      fun job hjob => Job.apt_of_validate (hready.line job hjob), fun i w hw => ?_, fun _ _ => rfl,
      fun _ _ h => (nomatch h), fun _ => rfl⟩
    rw [hs₀.workers w (List.mem_of_getElem? hw)]
    trivial
  | @worker h s t i w w' hrun hw hstep hw' ih =>
    obtain ⟨pool, hpool, -, hcases⟩ := workerStep_of_workers hw hstep hw'
    exact ih.step (hrun.lined hs₀).2 hpool hw hcases _
  | @outside h s t hrun hout hst ih =>
    obtain ⟨hothers, hexecutor⟩ := hmay s t hst
    have hreached : ∀ d, k.reached (h ++ (admitted s t).map .accepted) d = k.reached h d := fun d => by
      simp [Terms.reached]
    refine ⟨ih.calm.others (hothers ""), hexecutor.trans ih.executor, hout.apt ih.line,
      fun i w hw => ?_, fun d hfree => ?_, fun d job hjob => ?_, fun d => ?_⟩
    · rw [hout.workers] at hw
      exact (ih.workers i w hw).others fun d _ => ⟨hothers d, hreached d⟩
    · rw [hout.workers] at hfree
      rw [hreached, (hothers d).owned]
      exact ih.free d hfree
    · rw [History.begun_append, History.begun_map, List.append_nil] at hjob
      exact ih.begun d job hjob
    · rw [History.completed_append, History.ended_append, History.completed_map, History.ended_map,
        ih.completed]

/-- Where no job of a deployment is under way, those that have begun have ended. -/
theorem LinedUp.begun_eq (hlined : LinedUp d h s)
    (hfree : ∀ w ∈ s.workers, w.underWay? ≠ some d) : ids (h.begun d) = ids (h.ended d) := by
  rw [hlined.begun, underWay_eq_nil, List.append_nil]
  intro i hi
  obtain ⟨⟨id, b⟩, hview⟩ := Option.isSome_iff_exists.1 ((hlined.mem i).1 hi)
  cases b with
  | false => exact ⟨id, hview⟩
  | true =>
    obtain ⟨w, hw, hsees⟩ := Option.bind_eq_some_iff.1 hview
    exact absurd (Worker.underWay_iff.2 ⟨id, hsees⟩) (hfree w (List.mem_of_getElem? hw))

/-- Along every run at most one worker has a job of a deployment under way, and it holds the lock of the
deployment. Under terms, where no worker has one, all jobs of the deployment that have begun have
completed, and its containers are those that the same jobs leave when each is carried out alone, in
the order in which they began: the same ones, or both younger than the run and alike. -/
theorem serializable {may : Daemon → Daemon → Prop} (hs₀ : s₀.Unoccupied) (hrun : Run may s₀ h s)
    (d : String) :
    (∀ (i : Nat) w, s.workers[i]? = some w → w.underWay? = some d → s.locks.isHeldBy d i = true) ∧
    (∀ (i j : Nat) w v, s.workers[i]? = some w → s.workers[j]? = some v →
      w.underWay? = some d → v.underWay? = some d → i = j) ∧
    ∀ k, s₀.Ready k → (∀ s t, may s t → Harmless k s t) →
      (∀ w ∈ s.workers, w.underWay? ≠ some d) →
        ids (h.begun d) = ids (h.completed d) ∧
        List.Forall₂ (Alike s₀.memory.created) (s.memory.owned d)
          (((h.begun d).foldl Daemon.alone s₀).memory.owned d) := by
  have hlined := (hrun.lined hs₀).2 d
  refine ⟨fun i w hw hunder => decide_eq_true (hlined.held hw hunder),
    fun i j w v hw hv hunder hunder' => ?_, fun k hready hmay hfree => ?_⟩
  · exact Option.some.inj ((hlined.held hw hunder).symm.trans (hlined.held hv hunder'))
  · have hserial := hrun.serial hs₀ hready hmay
    have hfits := hserial.free d fun w hw hattempts => hfree w hw hattempts.underWay
    have hstart : Calm k s₀ s₀ := ⟨hready.steady, hready.hold, rfl, Nat.le_refl _⟩
    have halone := settled_foldl_alone (h.begun d)
      (fun job hjob => ⟨of_decide_eq_true (List.mem_filter.1 hjob).2, hserial.begun d job hjob⟩)
      (hstart.settled (d := d) rfl)
    exact ⟨by rw [hserial.completed, hlined.begun_eq hfree], hfits.alike halone.fits⟩

end

/-- Two workers and three jobs: one deployment is rolled out twice, and another one in between. -/
def neighbours : Daemon :=
  let api := Deployment.new "api" "nginx"
  let web := Deployment.new "web" "caddy"
  let jobs := [Job.create ⟨1⟩ .epoch { api with scale := 2 } 1, Job.create ⟨2⟩ .epoch web 1,
    Job.create ⟨3⟩ .epoch api 1]
  let s : Daemon :=
    { engine.memory.networks := .ofList [("hoist", ⟨"net-1", "hoist"⟩)]
      queue := .new 4
      pool := some (Pool.new 2) }
  (jobs.foldl (fun s job => (s.offer job).2) s).startWorkers

/-- The workers take steps by turns. -/
def alternating : History × Daemon := follow neighbours (List.replicate 60 [0, 1]).flatten

theorem unoccupied_neighbours : neighbours.Unoccupied := by
  refine ⟨fun w hw => ?_, fun _ => rfl⟩
  have hidle : neighbours.workers = [.idle, .idle] := rfl
  rw [hidle] at hw
  simpa using hw

def neighbourly : Terms :=
  ⟨⟨"net-1", "hoist"⟩, neighbours.store.getSecret, neighbours.ending, 0⟩

theorem ready_neighbours : neighbours.Ready neighbourly where
  steady := ⟨rfl, ⟨List.nodup_nil, fun _ hc => (nomatch hc)⟩⟩
  hold :=
    { pulls := rfl
      creates := rfl
      starts := rfl
      network := by decide +kernel
      secrets := fun _ _ => rfl
      ending := rfl
      base := Nat.zero_le _
      distinct := fun _ _ _ _ hmn => Terms.name_ne_name rfl hmn
      named := fun _ hc => (nomatch hc) }
  executor := rfl
  line := by decide +kernel

/-- Both rollouts of the one deployment have completed. The container they leave is not the one that
they leave alone, where no other is created in between, but it is alike. -/
theorem serializable_alternating :
    let s := (History.begun "api" alternating.1).foldl Daemon.alone neighbours
    List.Forall₂ (Alike 0) (alternating.2.memory.owned "api") (s.memory.owned "api") ∧
      ids (History.completed "api" alternating.1) = [⟨1⟩, ⟨3⟩] ∧
      (alternating.2.memory.owned "api").map Created.id = ["c4"] ∧
      (s.memory.owned "api").map Created.id = ["c3"] := by
  have hrun : Run (Harmless neighbourly) neighbours alternating.1 alternating.2 := .followed ..
  have hidle : ∀ w ∈ alternating.2.workers, w.underWay? ≠ some "api" := by decide +kernel
  have hserial := (serializable unoccupied_neighbours hrun "api").2.2 neighbourly ready_neighbours
    (fun _ _ h => h) hidle
  refine ⟨hserial.2, ?_, ?_, ?_⟩
  · decide +kernel
  · decide +kernel
  · decide +kernel

end Orchestrator
