import Mathlib.Logic.Function.Basic
import Orchestrator.Proofs.Daemon.History

/-!
# Who stands in line for the lock of a deployment

For one deployment, all that matters of a worker is whether it stands in line for the lock, with which
job, and whether an attempt of that job is under way: `Worker.view`. `Lined` is the invariant of the
line. Only its first can be under way, and the history of the deployment is: the jobs that ended, then
those in the line. There are three events (`Lined.join`, `Lined.begin`, `Lined.leave`), and all other
steps keep what the invariant speaks of.

Main statement: `Run.lined`, the invariant holds along every run.
-/
namespace Orchestrator

/-! ## One line -/

/-- What is seen of a worker: the job with which it stands in line, and whether it is under way. -/
abbrev View : Type := Option (Uuid × Bool)

/-- The jobs with which the workers of a line stand in it. -/
def waiting (view : Nat → View) (line : List Nat) : List Uuid :=
  line.filterMap fun i => (view i).map Prod.fst

/-- The jobs of a line that are under way. -/
def underWay (view : Nat → View) (line : List Nat) : List Uuid :=
  line.filterMap fun i => ((view i).filter Prod.snd).map Prod.fst

/-- The line for a lock: nobody stands in it twice, and only the first may be under way. `asked`,
`begun` and `ended` are the jobs of the history so far. -/
structure Lined (line : List Nat) (view : Nat → View) (asked begun ended : List Uuid) : Prop where
  nodup : line.Nodup
  mem : ∀ i, i ∈ line ↔ (view i).isSome
  tail : ∀ i ∈ line.tail, ∃ id, view i = some (id, false)
  asked : asked = ended ++ waiting view line
  begun : begun = ended ++ underWay view line

section

variable {line rest : List Nat} {view : Nat → View} {asked begun ended : List Uuid} {i : Nat}
  {id : Uuid}

theorem waiting_cons {b : Bool} (hi : view i = some (id, b)) :
    waiting view (i :: rest) = id :: waiting view rest := by
  simp [waiting, hi]

theorem underWay_cons (hi : view i = some (id, true)) :
    underWay view (i :: rest) = id :: underWay view rest := by
  simp [underWay, hi]

theorem waiting_append (line line' : List Nat) :
    waiting view (line ++ line') = waiting view line ++ waiting view line' := List.filterMap_append

theorem underWay_append (line line' : List Nat) :
    underWay view (line ++ line') = underWay view line ++ underWay view line' :=
  List.filterMap_append

theorem underWay_eq_nil (h : ∀ j ∈ line, ∃ id, view j = some (id, false)) :
    underWay view line = [] := by
  rw [underWay, List.filterMap_eq_nil_iff]
  intro j hj
  obtain ⟨id, hid⟩ := h j hj
  simp [hid]

/-- A worker that does not stand in a line does not matter to it. -/
theorem update_eq_of_mem {v : View} (hi : i ∉ line) : ∀ j ∈ line, Function.update view i v j = view j :=
  fun j hj => Function.update_of_ne (by rintro rfl; exact hi hj) ..

theorem waiting_update {v : View} (hi : i ∉ line) :
    waiting (Function.update view i v) line = waiting view line :=
  List.filterMap_congr fun j hj => by rw [update_eq_of_mem hi j hj]

theorem underWay_update {v : View} (hi : i ∉ line) :
    underWay (Function.update view i v) line = underWay view line :=
  List.filterMap_congr fun j hj => by rw [update_eq_of_mem hi j hj]

namespace Lined

theorem empty : Lined [] (fun _ => none) [] [] [] :=
  ⟨.nil, by simp, by simp, rfl, rfl⟩

/-- Who is under way is the first in the line. -/
theorem head_of_underWay (h : Lined line view asked begun ended) (hi : view i = some (id, true)) :
    ∃ rest, line = i :: rest := by
  have hmem : i ∈ line := (h.mem i).2 (by simp [hi])
  cases line with
  | nil => cases hmem
  | cons j rest =>
    rcases List.mem_cons.1 hmem with rfl | hrest
    · exact ⟨rest, rfl⟩
    · obtain ⟨id', hid'⟩ := h.tail i hrest
      rw [hi] at hid'
      cases hid'

/-- A worker asks for the lock. -/
theorem join (h : Lined line view asked begun ended) (hi : view i = none) (id : Uuid) :
    Lined (line ++ [i]) (Function.update view i (some (id, false))) (asked ++ [id]) begun ended := by
  have hnot : i ∉ line := fun hmem => by
    have := (h.mem i).1 hmem
    simp [hi] at this
  refine ⟨?_, fun j => ?_, fun j hj => ?_, ?_, ?_⟩
  · refine List.nodup_append.2 ⟨h.nodup, List.nodup_singleton i, fun j hj k hk hjk => hnot ?_⟩
    rwa [← List.mem_singleton.1 hk, ← hjk]
  · by_cases hji : j = i
    · simp [hji]
    · simp [hji, h.mem j]
  · by_cases hji : j = i
    · exact ⟨id, by rw [hji, Function.update_self]⟩
    · rw [Function.update_of_ne hji]
      cases line with
      | nil => simp at hj
      | cons k rest =>
        refine h.tail j ?_
        simpa [hji] using hj
  · rw [h.asked, waiting_append, waiting_update hnot, waiting_cons (Function.update_self ..),
      List.append_assoc]
    rfl
  · have hnone : underWay (Function.update view i (some (id, false))) [i] = [] := by simp [underWay]
    rw [h.begun, underWay_append, underWay_update hnot, hnone, List.append_nil]

/-- The first in the line has not begun. -/
theorem ready (h : Lined (i :: rest) view asked begun ended) (hi : view i = some (id, false)) :
    begun = ended ∧ ∃ later, asked = ended ++ id :: later := by
  refine ⟨?_, waiting view rest, ?_⟩
  · have hnone : ∀ j ∈ i :: rest, ∃ id, view j = some (id, false) := by
      rintro j hj
      rcases List.mem_cons.1 hj with rfl | hj
      · exact ⟨id, hi⟩
      · exact h.tail j hj
    rw [h.begun, underWay_eq_nil hnone, List.append_nil]
  · rw [h.asked, waiting_cons hi]

/-- The first in the line begins. -/
theorem begin (h : Lined (i :: rest) view asked begun ended) (hi : view i = some (id, false)) :
    Lined (i :: rest) (Function.update view i (some (id, true))) asked (begun ++ [id]) ended := by
  have hnot : i ∉ rest := (List.nodup_cons.1 h.nodup).1
  refine ⟨h.nodup, fun j => ?_, fun j hj => ?_, ?_, ?_⟩
  · by_cases hji : j = i
    · simp [hji]
    · rw [Function.update_of_ne hji]
      exact h.mem j
  · rw [update_eq_of_mem hnot j hj]
    exact h.tail j hj
  · rw [h.asked, waiting_cons hi, waiting_cons (Function.update_self ..), waiting_update hnot]
  · rw [(h.ready hi).1, underWay_cons (Function.update_self ..), underWay_update hnot,
      show underWay view rest = [] from underWay_eq_nil h.tail]

/-- Who is under way ends its job and leaves the line. -/
theorem leave (h : Lined line view asked begun ended) (hi : view i = some (id, true)) :
    Lined (line.erase i) (Function.update view i none) asked begun (ended ++ [id]) := by
  obtain ⟨rest, rfl⟩ := h.head_of_underWay hi
  obtain ⟨hnot, hnodup⟩ := List.nodup_cons.1 h.nodup
  have htail : ∀ j ∈ rest, ∃ id, view j = some (id, false) := h.tail
  rw [List.erase_cons_head]
  refine ⟨hnodup, fun j => ?_, fun j hj => ?_, ?_, ?_⟩
  · by_cases hji : j = i
    · simp [hji, hnot]
    · rw [Function.update_of_ne hji, ← h.mem j]
      simp [hji]
  · have hrest : j ∈ rest := List.mem_of_mem_tail hj
    rw [update_eq_of_mem hnot j hrest]
    exact htail j hrest
  · rw [waiting_update hnot, h.asked, waiting_cons hi, List.append_assoc]
    rfl
  · rw [underWay_update hnot, underWay_eq_nil htail, h.begun, underWay_cons hi, underWay_eq_nil htail]
    simp

end Lined

end

/-! ## Attempts keep their job -/

/-- Everything may be asked, and answered in any way. -/
def Setting.anything : Setting Unit := ⟨fun _ _ => True, fun _ _ _ _ => True⟩

theorem Program.meets_anything {α : Type} {p : Program α} {post : α → Unit → Prop}
    (h : ∀ a, post a ()) : p.Meets .anything post () := by
  induction p with
  | done a => exact h a
  | ask r next ih => exact ⟨trivial, fun a _ _ => ih a⟩

/-- However it is answered, the program of an attempt gives back its job as the same one. -/
def Keeps (job : Job) (rest : AttemptProgram) : Prop :=
  rest.Meets .anything (fun r _ => r.2.id = job.id ∧ r.2.scope = job.scope) ()

theorem keeps_performWorkflow (f : Fleet) (job : Job) : Keeps job (Executor.performWorkflow f job) := by
  unfold Keeps Executor.performWorkflow Job.attempt
  rw [Program.meets_bind]
  cases job.work with
  | create config current new =>
    dsimp only
    rw [Program.meets_bind]
    exact Program.meets_anything fun _ => ⟨rfl, rfl⟩
  | delete config current =>
    dsimp only
    rw [Program.meets_bind]
    exact Program.meets_anything fun _ => ⟨rfl, rfl⟩

theorem keeps_begin (f : Fleet) (executor : Executor) (job : Job) :
    Keeps job (executor.begin f job).1 := by
  unfold Executor.begin
  split
  · exact keeps_performWorkflow f job
  · split
    · exact ⟨trivial, fun _ _ _ => ⟨rfl, rfl⟩⟩
    · exact ⟨rfl, rfl⟩

namespace Worker

/-- An attempt that is under way keeps its job. -/
def Sound : Worker → Prop
  | .attempting job _ rest | .sleeping job _ _ rest => Keeps job rest
  | _ => True

/-- What is seen of a worker in the line of a deployment. -/
def view (d : String) : Worker → View
  | .locking job => if job.scope = d then some (job.id, false) else none
  | .attempting job _ _ | .sleeping job _ _ _ | .resting job _ _ =>
    if job.scope = d then some (job.id, true) else none
  | _ => none

end Worker

namespace Daemon

variable {s t : Daemon} {pool : Pool} {i : Nat} {w w' : Worker} {d : String}

theorem WorkerStep.sound (h : WorkerStep s pool i w w' t) (hw : w.Sound) : w'.Sound := by
  cases h with
  | first _ => exact keeps_begin ..
  | again _ => exact keeps_begin ..
  | pause => exact hw.2 () () trivial
  | ask _ => exact hw.2 _ () trivial
  | wake _ => exact hw
  | _ => trivial

/-- A step that does not concern the lock of a deployment. -/
structure Quiet (d : String) (w w' : Worker) (s t : Daemon) : Prop where
  line : t.locks.line d = s.locks.line d
  view : w'.view d = w.view d
  asked : History.asked d (w.change w') = []
  begun : History.begun d (w.change w') = []
  ended : History.ended d (w.change w') = []

/-- The ways in which a step concerns the lock of a deployment: not at all, or the worker asks for it,
or begins as its holder, or gives it up. -/
theorem WorkerStep.lock (d : String) (h : WorkerStep s pool i w w' t) (hw : w.Sound) :
    Quiet d w w' s t ∨
    (∃ job, job.scope = d ∧ w = .taken job ∧ w' = .locking job ∧
      t.locks.line d = s.locks.line d ++ [i]) ∨
    (∃ job job' rest, job.scope = d ∧ w = .locking job ∧ w' = .attempting job' 1 rest ∧
      job'.id = job.id ∧ job'.scope = d ∧ (s.locks.line d).head? = some i ∧
      t.locks.line d = s.locks.line d) ∨
    ∃ job attempt rest, job.scope = d ∧ w = .attempting job attempt rest ∧
      (w' = .idle ∨ ∃ job', w' = .crashed job') ∧
      t.locks.line d = (s.locks.line d).erase i := by
  have left : ∀ {job : Job} (job' : Job), job'.scope = job.scope → job.scope = d →
      (s.locks.leave job'.scope i).line d = (s.locks.line d).erase i := fun _ hscope hd => by
    rw [Locks.line_leave, if_pos (by rw [hscope, hd])]
  have kept : ∀ {job : Job} (job' : Job), job'.scope = job.scope → job.scope ≠ d →
      (s.locks.leave job'.scope i).line d = s.locks.line d := fun _ hscope hd => by
    rw [Locks.line_leave, if_neg (by rw [hscope]; exact hd.symm)]
  cases h with
  | stop => exact .inl ⟨rfl, rfl, rfl, rfl, rfl⟩
  | take _ => exact .inl ⟨rfl, rfl, rfl, rfl, rfl⟩
  | @join job =>
    by_cases hd : job.scope = d
    · exact .inr (.inl ⟨job, hd, rfl, rfl, (Locks.line_join ..).trans (if_pos hd.symm)⟩)
    · exact .inl ⟨(Locks.line_join ..).trans (if_neg (Ne.symm hd)), if_neg hd, jobsOf_of_ne hd, rfl, rfl⟩
  | @first job hheld =>
    by_cases hd : job.scope = d
    · have hhead : (s.locks.line job.scope).head? = some i := of_decide_eq_true hheld
      exact .inr (.inr (.inl ⟨job, _, _, hd, rfl, rfl, rfl, hd, hd ▸ hhead, rfl⟩))
    · exact .inl ⟨rfl, (if_neg hd).trans (if_neg hd).symm, rfl, jobsOf_of_ne hd, rfl⟩
  | @succeed job job' attempt =>
    by_cases hd : job.scope = d
    · exact .inr (.inr (.inr ⟨job, attempt, _, hd, rfl, .inl rfl, left job' hw.2 hd⟩))
    · exact .inl ⟨kept job' hw.2 hd, (if_neg hd).symm, rfl, rfl, jobsOf_of_ne hd⟩
  | @crash job job' attempt text =>
    by_cases hd : job.scope = d
    · exact .inr (.inr (.inr ⟨job, attempt, _, hd, rfl, .inr ⟨job', rfl⟩, left job' hw.2 hd⟩))
    · exact .inl ⟨kept job' hw.2 hd, (if_neg hd).symm, rfl, rfl, jobsOf_of_ne hd⟩
  | @fail job job' attempt e _ =>
    by_cases hd : job.scope = d
    · exact .inr (.inr (.inr ⟨job, attempt, _, hd, rfl, .inl rfl, left job' hw.2 hd⟩))
    · exact .inl ⟨kept job' hw.2 hd, (if_neg hd).symm, rfl, rfl, jobsOf_of_ne hd⟩
  | @retry job job' attempt e _ =>
    obtain ⟨hid, hscope⟩ := hw
    refine .inl ⟨rfl, ?_, rfl, rfl, rfl⟩
    change (if job'.scope = d then some (job'.id, true) else none)
      = if job.scope = d then some (job.id, true) else none
    rw [← hid, ← hscope]
  | pause => exact .inl ⟨rfl, rfl, rfl, rfl, rfl⟩
  | ask _ => exact .inl ⟨by rw [← serve_locks _ s]; rfl, rfl, rfl, rfl, rfl⟩
  | wake _ => exact .inl ⟨rfl, rfl, rfl, rfl, rfl⟩
  | again _ => exact .inl ⟨rfl, rfl, rfl, rfl, rfl⟩

/-- What is seen of each worker in the line of a deployment. -/
def view (d : String) (s : Daemon) (i : Nat) : View := s.workers[i]?.bind (Worker.view d)

theorem view_eq (hw : s.workers[i]? = some w) : s.view d i = w.view d := by
  rw [view, hw]
  rfl

theorem view_set (hw : s.workers[i]? = some w) (ht : t.workers = s.workers.set i w') :
    t.view d = Function.update (s.view d) i (w'.view d) := by
  funext j
  by_cases hji : j = i
  · subst hji
    rw [Function.update_self, view, ht, List.getElem?_set_self (List.getElem?_eq_some_iff.1 hw).1]
    rfl
  · rw [Function.update_of_ne hji, view, ht, List.getElem?_set_ne (Ne.symm hji)]
    rfl

end Daemon

/-- The identifiers of jobs. -/
abbrev ids (jobs : List Job) : List Uuid := jobs.map Job.id

/-- The line for the lock of a deployment is as the history tells. -/
def LinedUp (d : String) (h : History) (s : Daemon) : Prop :=
  Lined (s.locks.line d) (s.view d) (ids (h.asked d)) (ids (h.begun d)) (ids (h.ended d))

/-- Every step of a worker keeps the line. -/
theorem LinedUp.step {s t : Daemon} {pool : Pool} {i : Nat} {w w' : Worker} {d : String}
    {h : History} (hlined : LinedUp d h s) (hsound : w.Sound) (hpool : s.pool = some pool)
    (hw : s.workers[i]? = some w) (hstep : Daemon.WorkerStep s pool i w w' t) (jobs : List Job) :
    LinedUp d (h ++ (jobs.map .accepted ++ w.change w')) t := by
  have hview : t.view d = Function.update (s.view d) i (w'.view d) :=
    Daemon.view_set hw (hstep.workers hpool)
  have hi : s.view d i = w.view d := Daemon.view_eq hw
  unfold LinedUp at *
  simp only [History.asked_append, History.begun_append, History.ended_append, History.asked_map,
    History.begun_map, History.ended_map, List.nil_append, List.map_append]
  rcases hstep.lock d hsound with hquiet | ⟨job, hd, rfl, rfl, hline⟩ |
    ⟨job, job', rest, hd, rfl, rfl, hid, hscope, hhead, hline⟩ |
    ⟨job, attempt, rest, hd, rfl, hend, hline⟩
  · rw [hview, hquiet.line, hquiet.asked, hquiet.begun, hquiet.ended, hquiet.view, ← hi,
      Function.update_eq_self]
    simpa using hlined
  · have hjoin := hlined.join hi job.id
    have hnew : (Worker.locking job).view d = some (job.id, false) := if_pos hd
    have hasked : History.asked d (Worker.change (.taken job) (.locking job)) = [job] := jobsOf_of_eq hd
    have hbegun : History.begun d (Worker.change (.taken job) (.locking job)) = [] := rfl
    have hended : History.ended d (Worker.change (.taken job) (.locking job)) = [] := rfl
    rw [hview, hline, hnew, hasked, hbegun, hended]
    simpa using hjoin
  · have hold : s.view d i = some (job.id, false) := hi.trans (if_pos hd)
    have hnew : (Worker.attempting job' 1 rest).view d = some (job.id, true) := by
      rw [← hid]
      exact if_pos hscope
    have hbegun : History.begun d (Worker.change (.locking job) (.attempting job' 1 rest)) = [job] :=
      jobsOf_of_eq hd
    have hasked : History.asked d (Worker.change (.locking job) (.attempting job' 1 rest)) = [] := rfl
    have hended : History.ended d (Worker.change (.locking job) (.attempting job' 1 rest)) = [] := rfl
    obtain ⟨line, hcons⟩ := List.head?_eq_some_iff.1 hhead
    rw [hcons] at hlined
    have hbegin := hlined.begin hold
    rw [hview, hline, hcons, hnew, hbegun, hasked, hended]
    simpa using hbegin
  · have hold : s.view d i = some (job.id, true) := hi.trans (if_pos hd)
    have hleave := hlined.leave hold
    have hnew : w'.view d = none := by rcases hend with rfl | ⟨job', rfl⟩ <;> rfl
    have hended : History.ended d (Worker.change (.attempting job attempt rest) w') = [job] := by
      rcases hend with rfl | ⟨job', rfl⟩ <;> exact jobsOf_of_eq hd
    have hquiet : History.asked d (Worker.change (.attempting job attempt rest) w') = [] ∧
        History.begun d (Worker.change (.attempting job attempt rest) w') = [] := by
      rcases hend with rfl | ⟨job', rfl⟩ <;> exact ⟨rfl, rfl⟩
    rw [hview, hline, hnew, hended, hquiet.1, hquiet.2]
    simpa using hleave

/-! ## Runs -/

/-- No worker has a job, and nobody stands in a line. -/
structure Daemon.Unoccupied (s : Daemon) : Prop where
  workers : ∀ w ∈ s.workers, w = .idle
  locks : ∀ d, s.locks.line d = []

/-- Along every run that begins without jobs, attempts keep their jobs and lines are as the history
tells. -/
theorem Run.lined {may : Daemon → Daemon → Prop} {s₀ s : Daemon} {h : History}
    (hrun : Run may s₀ h s) (hs₀ : s₀.Unoccupied) :
    (∀ w ∈ s.workers, w.Sound) ∧ ∀ d, LinedUp d h s := by
  induction hrun with
  | start =>
    refine ⟨fun w hw => ?_, fun d => ?_⟩
    · rw [hs₀.workers w hw]
      trivial
    · have hview : s₀.view d = fun _ => none := by
        funext i
        cases hw : s₀.workers[i]? with
        | none => rw [Daemon.view, hw]; rfl
        | some w =>
          rw [Daemon.view_eq hw, hs₀.workers w (List.mem_of_getElem? hw)]
          rfl
      unfold LinedUp
      rw [hview, hs₀.locks d]
      exact Lined.empty
  | @worker h s t i w w' hrun hw hstep hw' ih =>
    obtain ⟨hsound, hlined⟩ := ih
    obtain ⟨pool, hpool, ht, hcases⟩ := Daemon.workerStep_of_workers hw hstep hw'
    have hw_sound := hsound w (List.mem_of_getElem? hw)
    refine ⟨fun v hv => ?_, fun d => (hlined d).step hw_sound hpool hw hcases _⟩
    rw [ht] at hv
    rcases List.mem_or_eq_of_mem_set hv with hv | rfl
    · exact hsound v hv
    · exact hcases.sound hw_sound
  | @outside h s t hrun hout hmay ih =>
    obtain ⟨hsound, hlined⟩ := ih
    refine ⟨by rw [hout.workers]; exact hsound, fun d => ?_⟩
    have := hlined d
    unfold LinedUp Daemon.view at *
    rw [hout.workers, hout.locks]
    simpa using this

end Orchestrator
